import MigrationScript.FixedWidth
import MigrationScript.Meaning.Binding
import MigrationScript.Operation.Value

namespace MigrationScript

/-- Reads the value of the argument with the given name. -/
abbrev Conversion (α : Type) := String → Expr → Except ScriptError α

namespace Expr

def mismatch {α : Type} (argument : String) (wanted : Wanted) (expr : Expr) :
    Except ScriptError α :=
  .error ⟨.typeMismatch argument wanted, expr.span⟩

def outOfRange {α : Type} (argument : String) (width : IntegerWidth) (expr : Expr) :
    Except ScriptError α :=
  .error ⟨.outOfRange argument width, expr.span⟩

def toText : Conversion String := fun argument expr =>
  match expr with
  | .constant (.string value) _ => .ok value
  | expr => mismatch argument .string expr

def toBool : Conversion Bool := fun argument expr =>
  match expr with
  | .constant (.bool value) _ => .ok value
  | expr => mismatch argument .bool expr

/-- An integer that is not marked as long. -/
def toInt : Conversion Int32 := fun argument expr =>
  match expr with
  | .constant (.integer value false) _ =>
    match int32? value with
    | some value => .ok value
    | none => outOfRange argument .int expr
  | expr => mismatch argument .int expr

def toLong : Conversion Int64 := fun argument expr =>
  match expr with
  | .constant (.integer value _) _ =>
    match int64? value with
    | some value => .ok value
    | none => outOfRange argument .long expr
  | expr => mismatch argument .long expr

/-- An integer as a default: a long one if it is marked so, or is too large for the other form. -/
def integerDefault? (value : Int) (isLong : Bool) : Option DefaultValue :=
  match isLong, int32? value with
  | false, some value => some (.int value)
  | _, _ => (int64? value).map .long

/-- The doubles that have no digits. -/
def namedDouble? (name : String) : Option Double :=
  match name with
  | "NaN" => some .nan
  | "PositiveInfinity" => some (.infinity false)
  | "NegativeInfinity" => some (.infinity true)
  | _ => none

def toDefault : Conversion DefaultValue := fun argument expr =>
  match expr with
  | .constant (.bool value) _ => .ok (.bool value)
  | .constant (.string value) _ => .ok (.string value)
  | .constant (.double value) _ => .ok (.double value)
  | .constant (.integer value isLong) _ =>
    match integerDefault? value isLong with
    | some value => .ok value
    | none => outOfRange argument .long expr
  | .path ["double", name] _ =>
    match namedDouble? name with
    | some value => .ok (.double value)
    | none => mismatch argument .defaultValue expr
  | expr => mismatch argument .defaultValue expr

def toAction : Conversion ReferentialAction := fun argument expr =>
  match expr with
  | .path ["ReferentialAction", name] span =>
    match ReferentialAction.ofName? name with
    | some action => .ok action
    | none => .error ⟨.unknownReferentialAction name, span⟩
  | expr => mismatch argument .referentialAction expr

def toTexts : Conversion (List String) := fun argument expr =>
  match expr with
  | .array items _ => items.mapM (toText argument)
  | expr => mismatch argument .stringArray expr

def toFunction : Conversion Expr := fun argument expr =>
  match expr with
  | .function .. | .block .. => .ok expr
  | expr => mismatch argument .function expr

end Expr

namespace Bound

def optional {α : Type} (bound : Bound) (convert : Conversion α) (name : String) :
    Except ScriptError (Option α) :=
  match bound.value? name with
  | some expr => (convert name expr).map some
  | none => .ok none

def required {α : Type} (bound : Bound) (convert : Conversion α) (name : String) :
    Except ScriptError α :=
  match bound.value? name with
  | some expr => convert name expr
  | none => .error (bound.missing name)

/-- A list of columns, given as one column under one name or as an array under another. -/
def columns (bound : Bound) (singular plural : String) : Except ScriptError (List String) := do
  bound.exclusive singular plural
  match ← bound.optional Expr.toText singular with
  | some column => return [column]
  | none => return (← bound.optional Expr.toTexts plural).getD []

def requiredColumns (bound : Bound) (singular plural : String) :
    Except ScriptError (List String) := do
  let columns ← bound.columns singular plural
  if columns.isEmpty then .error (bound.missing plural) else .ok columns

end Bound

end MigrationScript
