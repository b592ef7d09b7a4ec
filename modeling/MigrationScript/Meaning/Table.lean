import MigrationScript.Meaning.Value
import MigrationScript.Operation.Basic

namespace MigrationScript

namespace Bound

def columnOptions (bound : Bound) (column : Column) : Except ScriptError Column := do
  bound.exclusive "defaultValue" "defaultExpression"
  let isNullable := (← bound.optional Expr.toBool "nullable").getD false
  let defaultValue ← bound.optional Expr.toDefault "defaultValue"
  let defaultExpression ← bound.optional Expr.toText "defaultExpression"
  return { column with isNullable, defaultValue, defaultExpression }

def reference (bound : Bound) (key : ForeignKey) : Except ScriptError ForeignKey := do
  let referencedSchema ← bound.optional Expr.toText "referencedSchema"
  let referencedTable ← bound.required Expr.toText "referencedTable"
  let referencedColumns ← bound.columns "referencedColumn" "referencedColumns"
  let onUpdate := (← bound.optional Expr.toAction "onUpdate").getD .noAction
  let onDelete := (← bound.optional Expr.toAction "onDelete").getD .noAction
  return { key with referencedSchema, referencedTable, referencedColumns, onUpdate, onDelete }

end Bound

namespace Call

def addresses (call : Call) (target : String) : Except ScriptError Unit :=
  if call.target = target then .ok () else .error ⟨.unknownTarget target call.target, call.span⟩

def unknownMethod {α : Type} (call : Call) : Except ScriptError α :=
  .error ⟨.unknownMethod call.method, call.span⟩

end Call

/-- The columns of a table under the identifiers by which its constraints call them. -/
abbrev DeclaredColumns := List (String × Column)

namespace Table

def column (table : Table) (parameter identifier : String) (call : Call) :
    Except ScriptError Column := do
  call.addresses parameter
  if call.method ≠ "Column" then call.unknownMethod
  let bound ← Bound.ofCall call Parameter.declaredColumn
  let name := (← bound.optional Expr.toText "name").getD identifier
  let type ← bound.required Expr.toText "type"
  bound.columnOptions { name, schema := table.schema, table := table.name, type }

/-- Adds a member of the object of columns; an identifier is declared once. -/
def addColumn (table : Table) (parameter : String) (declared : DeclaredColumns) (member : Member) :
    Except ScriptError DeclaredColumns := do
  match member with
  | .path _ span => .error ⟨.typeMismatch "columns" .namedColumn, span⟩
  | .named identifier (.call call) span =>
    let column ← table.column parameter identifier call
    if declared.any (·.1 == identifier) then .error ⟨.duplicateColumn identifier, span⟩
    else .ok (declared ++ [(identifier, column)])
  | .named identifier value _ => value.mismatch identifier .columnDeclaration

def declaredColumns (table : Table) (function : Expr) : Except ScriptError DeclaredColumns :=
  match function with
  | .function parameter (.object members _) _ => members.foldlM (table.addColumn parameter) []
  | .function _ body _ => body.mismatch "columns" .columnObject
  | function => function.mismatch "columns" .columnObject

def selected (declared : DeclaredColumns) (parameter : String) (segments : List String)
    (span : Span) : Except ScriptError String :=
  match segments with
  | [head, identifier] =>
    if head = parameter then
      match declared.lookup identifier with
      | some column => .ok column.name
      | none => .error ⟨.unknownColumn identifier, span⟩
    else .error ⟨.typeMismatch "columns" .columnSelector, span⟩
  | _ => .error ⟨.typeMismatch "columns" .columnSelector, span⟩

def selectedMember (declared : DeclaredColumns) (parameter : String) (member : Member) :
    Except ScriptError String :=
  match member with
  | .path segments span => selected declared parameter segments span
  | .named _ _ span => .error ⟨.typeMismatch "columns" .columnSelector, span⟩

/-- The names of the columns that a function selects: one by a path, or several by an object. -/
def selection (declared : DeclaredColumns) (function : Expr) : Except ScriptError (List String) :=
  match function with
  | .function parameter (.path segments span) _ => do
    return [← selected declared parameter segments span]
  | .function parameter (.object members _) _ =>
    members.mapM (selectedMember declared parameter)
  | .function _ body _ => body.mismatch "columns" .columnSelector
  | function => function.mismatch "columns" .columnSelector

/-- A primary key or a unique constraint that a call declares. -/
def key (table : Table) (declared : DeclaredColumns) (call : Call) : Except ScriptError Key := do
  let bound ← Bound.ofCall call Parameter.declaredKey
  let name ← bound.required Expr.toText "name"
  let columns ← selection declared (← bound.required Expr.toFunction "columns")
  return { name, schema := table.schema, table := table.name, columns }

def foreignKey (table : Table) (declared : DeclaredColumns) (call : Call) :
    Except ScriptError ForeignKey := do
  let bound ← Bound.ofCall call Parameter.declaredForeignKey
  let name ← bound.required Expr.toText "name"
  let columns ← selection declared (← bound.required Expr.toFunction "columns")
  bound.reference { name, schema := table.schema, table := table.name, columns }

/-- Adds the constraint that a call declares; a table has one primary key. -/
def addConstraint (parameter : String) (declared : DeclaredColumns) (table : Table) (call : Call) :
    Except ScriptError Table := do
  call.addresses parameter
  match call.method with
  | "PrimaryKey" =>
    if table.primaryKey.isSome then .error ⟨.duplicatePrimaryKey table.name, call.span⟩
    let key ← table.key declared call
    return { table with primaryKey := some key }
  | "ForeignKey" =>
    let key ← table.foreignKey declared call
    return { table with foreignKeys := table.foreignKeys ++ [key] }
  | "Unique" =>
    let key ← table.key declared call
    return { table with uniqueConstraints := table.uniqueConstraints ++ [key] }
  | _ => call.unknownMethod

def addConstraints (table : Table) (declared : DeclaredColumns) (function : Expr) :
    Except ScriptError Table :=
  match function with
  | .block parameter statements _ =>
    statements.foldlM (addConstraint parameter declared) table
  | function => function.mismatch "constraints" .statementBlock

def ofBound (bound : Bound) : Except ScriptError Table := do
  let name ← bound.required Expr.toText "name"
  let schema ← bound.optional Expr.toText "schema"
  let table : Table := { name, schema }
  let declared ← table.declaredColumns (← bound.required Expr.toFunction "columns")
  let table := { table with columns := declared.map (·.2) }
  match ← bound.optional Expr.toFunction "constraints" with
  | some function => table.addConstraints declared function
  | none => return table

end Table

end MigrationScript
