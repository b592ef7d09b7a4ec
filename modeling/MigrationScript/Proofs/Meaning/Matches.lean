import MigrationScript.Meaning.Statement
import MigrationScript.Proofs.Meaning.Steps

/-!
# Arguments that mean the same

Two ways to give the arguments of a call are compared parameter by parameter: a value that is usual
may be given or left out, and columns may be given under either of two names. What reads the
parameters is then shown to see no difference.
-/

namespace MigrationScript

/-! ### Values that match -/

/-- The value that a parameter has where it is left out. The name of a column is its identifier. -/
inductive IsDefault (identifier : Option String) (name : String) : Expr → Prop
  | flag (h : name ∈ ["nullable", "unique", "cycle", "suppressTransaction"]) (span : Span) :
      IsDefault identifier name (.constant (.bool false) span)
  | action (h : name ∈ ["onUpdate", "onDelete"]) (span : Span) :
      IsDefault identifier name (.path ["ReferentialAction", "NoAction"] span)
  | constraints (h : name = "constraints") (parameter : String) (span : Span) :
      IsDefault identifier name (.block parameter [] span)
  | name {text : String} (h : name = "name") (htext : identifier = some text) (span : Span) :
      IsDefault identifier name (.constant (.string text) span)

def Expr.IsFunction : Expr → Prop
  | .function .. | .block .. => True
  | _ => False

/-- Two functions that declare the same columns and constraints and select the same columns. -/
structure SameFunction (first second : Expr) : Prop where
  declaredColumns : ∀ table : Table,
    Alike Eq (table.declaredColumns first) (table.declaredColumns second)
  addConstraints : ∀ (table : Table) (declared : DeclaredColumns),
    Alike Eq (table.addConstraints declared first) (table.addConstraints declared second)
  selection : ∀ declared : DeclaredColumns,
    Alike Eq (Table.selection declared first) (Table.selection declared second)

theorem SameFunction.refl (function : Expr) : SameFunction function function :=
  ⟨fun _ => .rfl, fun _ _ => .rfl, fun _ => .rfl⟩

/-- Two values of a parameter, or their absence, that mean the same. -/
inductive SameArgument (identifier : Option String) (name : String) :
    Option Expr → Option Expr → Prop
  | same (value : Option Expr) : SameArgument identifier name value value
  | default {value : Expr} (h : IsDefault identifier name value) :
      SameArgument identifier name none (some value)
  | function {first second : Expr} (hfirst : first.IsFunction) (hsecond : second.IsFunction)
      (h : SameFunction first second) : SameArgument identifier name (some first) (some second)

/-- The conversion fails on functions. -/
def Conversion.RefusesFunctions {α : Type} (convert : Conversion α) : Prop :=
  ∀ argument expr, expr.IsFunction → ∃ error, convert argument expr = .error error

namespace Expr

theorem refuses_toText : Conversion.RefusesFunctions toText := by
  intro argument expr h
  cases expr <;> first | exact ⟨_, rfl⟩ | cases h

theorem refuses_toBool : Conversion.RefusesFunctions toBool := by
  intro argument expr h
  cases expr <;> first | exact ⟨_, rfl⟩ | cases h

theorem refuses_toInt : Conversion.RefusesFunctions toInt := by
  intro argument expr h
  cases expr <;> first | exact ⟨_, rfl⟩ | cases h

theorem refuses_toLong : Conversion.RefusesFunctions toLong := by
  intro argument expr h
  cases expr <;> first | exact ⟨_, rfl⟩ | cases h

theorem refuses_toDefault : Conversion.RefusesFunctions toDefault := by
  intro argument expr h
  cases expr <;> first | exact ⟨_, rfl⟩ | cases h

theorem refuses_toAction : Conversion.RefusesFunctions toAction := by
  intro argument expr h
  cases expr <;> first | exact ⟨_, rfl⟩ | cases h

theorem refuses_toTexts : Conversion.RefusesFunctions toTexts := by
  intro argument expr h
  cases expr <;> first | exact ⟨_, rfl⟩ | cases h

theorem toFunction_of_isFunction {expr : Expr} (h : expr.IsFunction) (argument : String) :
    toFunction argument expr = .ok expr := by
  cases expr <;> first | rfl | cases h

theorem toFunction_eq_ok_iff {argument : String} {expr function : Expr} :
    toFunction argument expr = .ok function ↔ expr.IsFunction ∧ function = expr := by
  refine ⟨fun h => ?_, fun ⟨h, heq⟩ => heq ▸ toFunction_of_isFunction h argument⟩
  cases expr <;> cases h <;> exact ⟨trivial, rfl⟩

theorem alike_toFunction (argument : String) (expr : Expr) :
    Alike SameFunction (toFunction argument expr) (toFunction argument expr) :=
  .refl SameFunction.refl _

end Expr

/-! ### Arguments that match -/

/-- The parameters that take columns. -/
def columnNames : List String :=
  ["column", "columns", "referencedColumn", "referencedColumns"]

/-- The parameter for one column and the one for several, each time both. -/
def columnPairs : List (String × String) :=
  [("column", "columns"), ("referencedColumn", "referencedColumns")]

/-- The parameters whose values may match without being the same, functions apart. -/
def defaultedNames : List String :=
  ["nullable", "unique", "cycle", "suppressTransaction", "onUpdate", "onDelete", "constraints",
    "name"]

theorem IsDefault.mem_defaultedNames {identifier : Option String} {name : String} {value : Expr}
    (h : IsDefault identifier name value) : name ∈ defaultedNames := by
  cases h with
  | flag h =>
    simp only [List.mem_cons, List.not_mem_nil, or_false] at h
    obtain rfl | rfl | rfl | rfl := h <;> decide
  | action h =>
    simp only [List.mem_cons, List.not_mem_nil, or_false] at h
    obtain rfl | rfl := h <;> decide
  | constraints h =>
    rw [h]
    decide
  | name h =>
    rw [h]
    decide

theorem SameArgument.isSome_eq {identifier : Option String} {name : String}
    {one two : Option Expr} (hname : name ∉ defaultedNames)
    (h : SameArgument identifier name one two) : one.isSome = two.isSome := by
  cases h with
  | same => rfl
  | default hdefault => exact absurd hdefault.mem_defaultedNames hname
  | function => rfl

/-- Without an identifier a name has no default. -/
theorem not_isDefault_name {value : Expr} : ¬IsDefault none "name" value := by
  intro h
  cases h with
  | flag h => exact absurd h (by decide)
  | action h => exact absurd h (by decide)
  | constraints h => exact absurd h (by decide)
  | name _ htext => cases htext

namespace Bound

/-- The values of all parameters match. Columns match if they are the same where they are read as
texts, under either of their two names, and where they are read as a function. -/
structure Matches (identifier : Option String) (first second : Bound) : Prop where
  value : ∀ name, name ∉ columnNames →
    SameArgument identifier name (first.value? name) (second.value? name)
  columns : Alike Eq (first.columns "column" "columns") (second.columns "column" "columns")
  referencedColumns : Alike Eq (first.columns "referencedColumn" "referencedColumns")
    (second.columns "referencedColumn" "referencedColumns")
  function : Alike SameFunction (first.required Expr.toFunction "columns")
    (second.required Expr.toFunction "columns")

section Values

variable {α : Type} {convert : Conversion α} {identifier : Option String} {first second : Bound}
  {name : String}

theorem alike_optional (hconvert : convert.RefusesFunctions)
    (hdefault : ∀ value, ¬IsDefault identifier name value)
    (h : SameArgument identifier name (first.value? name) (second.value? name)) :
    Alike Eq (first.optional convert name) (second.optional convert name) := by
  unfold optional
  generalize first.value? name = one at h
  generalize second.value? name = two at h
  cases h with
  | same => exact .rfl
  | default h => exact absurd h (hdefault _)
  | @function one two hone htwo =>
    obtain ⟨_, hone⟩ := hconvert name one hone
    obtain ⟨_, htwo⟩ := hconvert name two htwo
    dsimp only
    rw [hone, htwo]
    exact .error

theorem alike_required (hconvert : convert.RefusesFunctions)
    (hdefault : ∀ value, ¬IsDefault identifier name value)
    (h : SameArgument identifier name (first.value? name) (second.value? name)) :
    Alike Eq (first.required convert name) (second.required convert name) := by
  unfold required
  generalize first.value? name = one at h
  generalize second.value? name = two at h
  cases h with
  | same =>
    cases one with
    | none => exact .error
    | some value => exact .rfl
  | default h => exact absurd h (hdefault _)
  | @function one two hone htwo =>
    obtain ⟨_, hone⟩ := hconvert name one hone
    obtain ⟨_, htwo⟩ := hconvert name two htwo
    dsimp only
    rw [hone, htwo]
    exact .error

/-- A value that is the usual one means as much as none. -/
theorem alike_getD {usual : α} (hconvert : convert.RefusesFunctions)
    (hdefault : ∀ value, IsDefault identifier name value → convert name value = .ok usual)
    (h : SameArgument identifier name (first.value? name) (second.value? name)) :
    Alike (fun one two => one.getD usual = two.getD usual) (first.optional convert name)
      (second.optional convert name) := by
  unfold optional
  generalize first.value? name = one at h
  generalize second.value? name = two at h
  cases h with
  | same =>
    refine .refl (fun value => ?_) _
    rfl
  | default h =>
    dsimp only
    rw [hdefault _ h]
    exact .ok rfl
  | @function one two hone htwo =>
    obtain ⟨_, hone⟩ := hconvert name one hone
    obtain ⟨_, htwo⟩ := hconvert name two htwo
    dsimp only
    rw [hone, htwo]
    exact .error

variable {singular plural : String} (hone : singular ∉ defaultedNames)
  (hseveral : plural ∉ defaultedNames)
  (hsingular : SameArgument identifier singular (first.value? singular) (second.value? singular))
  (hplural : SameArgument identifier plural (first.value? plural) (second.value? plural))

include hone hseveral hsingular hplural

theorem alike_exclusive :
    Alike Eq (first.exclusive singular plural) (second.exclusive singular plural) := by
  unfold exclusive
  rw [hsingular.isSome_eq hone, hplural.isSome_eq hseveral]
  split
  · exact .error
  · exact .rfl

theorem alike_columns :
    Alike Eq (first.columns singular plural) (second.columns singular plural) := by
  unfold columns
  refine .bind_eq (alike_exclusive hone hseveral hsingular hplural) fun _ => ?_
  refine .bind_eq (alike_optional Expr.refuses_toText
    (fun _ hdefault => hone hdefault.mem_defaultedNames) hsingular) fun column => ?_
  cases column with
  | some column => exact .rfl
  | none =>
    refine .bind_eq (alike_optional Expr.refuses_toTexts
      (fun _ hdefault => hseveral hdefault.mem_defaultedNames) hplural) fun columns => ?_
    exact .rfl

end Values

theorem alike_required_toFunction {identifier : Option String} {first second : Bound}
    {name : String} (hname : name ∉ defaultedNames)
    (h : SameArgument identifier name (first.value? name) (second.value? name)) :
    Alike SameFunction (first.required Expr.toFunction name)
      (second.required Expr.toFunction name) := by
  unfold required
  generalize first.value? name = one at h
  generalize second.value? name = two at h
  cases h with
  | same =>
    cases one with
    | none => exact .error
    | some value => exact Expr.alike_toFunction _ _
  | default hdefault => exact absurd hdefault.mem_defaultedNames hname
  | function hfirst hsecond h =>
    dsimp only
    rw [Expr.toFunction_of_isFunction hfirst, Expr.toFunction_of_isFunction hsecond]
    exact .ok h

namespace Matches

variable {identifier : Option String} {first second : Bound} {name : String}

/-- A value without a default is read alike. -/
theorem optional {α : Type} {convert : Conversion α} (h : first.Matches identifier second)
    (hconvert : convert.RefusesFunctions) (hname : name ∉ columnNames ++ defaultedNames) :
    Alike Eq (first.optional convert name) (second.optional convert name) := by
  rw [List.mem_append, not_or] at hname
  exact alike_optional hconvert (fun _ hdefault => hname.2 hdefault.mem_defaultedNames)
    (h.value name hname.1)

theorem required {α : Type} {convert : Conversion α} (h : first.Matches identifier second)
    (hconvert : convert.RefusesFunctions) (hname : name ∉ columnNames ++ defaultedNames) :
    Alike Eq (first.required convert name) (second.required convert name) := by
  rw [List.mem_append, not_or] at hname
  exact alike_required hconvert (fun _ hdefault => hname.2 hdefault.mem_defaultedNames)
    (h.value name hname.1)

/-- The name of what is no column has no default. -/
theorem requiredName (h : first.Matches none second) :
    Alike Eq (first.required Expr.toText "name") (second.required Expr.toText "name") :=
  alike_required Expr.refuses_toText (fun _ => not_isDefault_name) (h.value "name" (by decide))

theorem columnName {text : String} (h : first.Matches (some text) second) :
    Alike (fun one two => one.getD text = two.getD text) (first.optional Expr.toText "name")
      (second.optional Expr.toText "name") := by
  refine alike_getD Expr.refuses_toText (fun value hdefault => ?_) (h.value "name" (by decide))
  cases hdefault with
  | flag h => exact absurd h (by decide)
  | action h => exact absurd h (by decide)
  | constraints h => exact absurd h (by decide)
  | name _ htext =>
    cases htext
    rfl

theorem flag (h : first.Matches identifier second)
    (hname : name ∈ ["nullable", "unique", "cycle", "suppressTransaction"]) :
    Alike (fun one two => one.getD false = two.getD false) (first.optional Expr.toBool name)
      (second.optional Expr.toBool name) := by
  have hcolumn : name ∉ columnNames := by
    simp only [List.mem_cons, List.not_mem_nil, or_false] at hname
    obtain rfl | rfl | rfl | rfl := hname <;> decide
  refine alike_getD Expr.refuses_toBool (fun value hdefault => ?_) (h.value name hcolumn)
  cases hdefault with
  | flag => rfl
  | action h =>
    simp only [List.mem_cons, List.not_mem_nil, or_false] at h
    obtain rfl | rfl := h <;> exact absurd hname (by decide)
  | constraints h => exact absurd (h ▸ hname) (by decide)
  | name h => exact absurd (h ▸ hname) (by decide)

theorem action (h : first.Matches identifier second) (hname : name ∈ ["onUpdate", "onDelete"]) :
    Alike (fun one two => one.getD .noAction = two.getD .noAction)
      (first.optional Expr.toAction name) (second.optional Expr.toAction name) := by
  have hcolumn : name ∉ columnNames := by
    simp only [List.mem_cons, List.not_mem_nil, or_false] at hname
    obtain rfl | rfl := hname <;> decide
  refine alike_getD Expr.refuses_toAction (fun value hdefault => ?_) (h.value name hcolumn)
  cases hdefault with
  | action => rfl
  | flag h =>
    simp only [List.mem_cons, List.not_mem_nil, or_false] at h
    obtain rfl | rfl | rfl | rfl := h <;> exact absurd hname (by decide)
  | constraints h => exact absurd (h ▸ hname) (by decide)
  | name h => exact absurd (h ▸ hname) (by decide)

theorem exclusive (h : first.Matches identifier second) {other : String}
    (hname : name ∉ columnNames ++ defaultedNames)
    (hother : other ∉ columnNames ++ defaultedNames) :
    Alike Eq (first.exclusive name other) (second.exclusive name other) := by
  rw [List.mem_append, not_or] at hname hother
  exact alike_exclusive hname.2 hother.2 (h.value name hname.1) (h.value other hother.1)

theorem requiredColumns (h : first.Matches identifier second) :
    Alike Eq (first.requiredColumns "column" "columns")
      (second.requiredColumns "column" "columns") := by
  unfold Bound.requiredColumns
  refine .bind_eq h.columns fun columns => ?_
  split
  · exact .error
  · exact .rfl

theorem columnOptions (h : first.Matches identifier second) (column : Column) :
    Alike Eq (first.columnOptions column) (second.columnOptions column) := by
  unfold Bound.columnOptions
  refine .bind_eq (h.exclusive (by decide) (by decide)) fun _ => ?_
  refine .bind (h.flag (by decide)) fun one two hflag => ?_
  refine .bind_eq (h.optional Expr.refuses_toDefault (by decide)) fun defaultValue => ?_
  refine .bind_eq (h.optional Expr.refuses_toText (by decide)) fun defaultExpression => ?_
  rw [hflag]
  exact .rfl

theorem reference (h : first.Matches identifier second) (key : ForeignKey) :
    Alike Eq (first.reference key) (second.reference key) := by
  unfold Bound.reference
  refine .bind_eq (h.optional Expr.refuses_toText (by decide)) fun referencedSchema => ?_
  refine .bind_eq (h.required Expr.refuses_toText (by decide)) fun referencedTable => ?_
  refine .bind_eq h.referencedColumns fun referencedColumns => ?_
  refine .bind (h.action (by decide)) fun one two hupdate => ?_
  refine .bind (h.action (by decide)) fun three four hdelete => ?_
  rw [hupdate, hdelete]
  exact .rfl

/-! ### Operations -/

variable (schema : Option String)

theorem toColumn (h : first.Matches none second) :
    Alike Eq (first.toColumn schema) (second.toColumn schema) := by
  unfold Bound.toColumn
  refine .bind_eq h.requiredName fun name => ?_
  refine .bind_eq (h.required Expr.refuses_toText (by decide)) fun table => ?_
  refine .bind_eq (h.required Expr.refuses_toText (by decide)) fun type => ?_
  exact h.columnOptions _

theorem toForeignKey (h : first.Matches none second) :
    Alike Eq (first.toForeignKey schema) (second.toForeignKey schema) := by
  unfold Bound.toForeignKey
  refine .bind_eq h.requiredName fun name => ?_
  refine .bind_eq (h.required Expr.refuses_toText (by decide)) fun table => ?_
  exact .bind_eq h.requiredColumns fun columns => h.reference _

theorem toKey (h : first.Matches none second) :
    Alike Eq (first.toKey schema) (second.toKey schema) := by
  unfold Bound.toKey
  refine .bind_eq h.requiredName fun name => ?_
  refine .bind_eq (h.required Expr.refuses_toText (by decide)) fun table => ?_
  exact .bind_eq h.requiredColumns fun columns => .rfl

theorem toIndex (h : first.Matches none second) :
    Alike Eq (first.toIndex schema) (second.toIndex schema) := by
  unfold Bound.toIndex
  refine .bind_eq (h.toKey schema) fun key => ?_
  refine .bind (h.flag (by decide)) fun one two hflag => ?_
  rw [hflag]
  exact .rfl

theorem toSequenceChange (h : first.Matches none second) :
    Alike Eq (first.toSequenceChange schema) (second.toSequenceChange schema) := by
  unfold Bound.toSequenceChange
  refine .bind_eq h.requiredName fun name => ?_
  refine .bind_eq (h.optional Expr.refuses_toInt (by decide)) fun incrementBy => ?_
  refine .bind_eq (h.optional Expr.refuses_toLong (by decide)) fun minValue => ?_
  refine .bind_eq (h.optional Expr.refuses_toLong (by decide)) fun maxValue => ?_
  refine .bind (h.flag (by decide)) fun one two hflag => ?_
  rw [hflag]
  exact .rfl

theorem toSequence (h : first.Matches none second) :
    Alike Eq (first.toSequence schema) (second.toSequence schema) := by
  unfold Bound.toSequence
  refine .bind_eq h.requiredName fun name => ?_
  refine .bind_eq (h.optional Expr.refuses_toText (by decide)) fun type => ?_
  refine .bind_eq (h.optional Expr.refuses_toLong (by decide)) fun startWith => ?_
  refine .bind_eq (h.optional Expr.refuses_toInt (by decide)) fun incrementBy => ?_
  refine .bind_eq (h.optional Expr.refuses_toLong (by decide)) fun minValue => ?_
  refine .bind_eq (h.optional Expr.refuses_toLong (by decide)) fun maxValue => ?_
  refine .bind (h.flag (by decide)) fun one two hflag => ?_
  rw [hflag]
  exact .rfl

theorem toTableMember (h : first.Matches none second) :
    Alike Eq (first.toTableMember schema) (second.toTableMember schema) := by
  unfold Bound.toTableMember
  refine .bind_eq h.requiredName fun name => ?_
  exact .bind_eq (h.required Expr.refuses_toText (by decide)) fun table => .rfl

theorem toSchemaObject (h : first.Matches none second) :
    Alike Eq (first.toSchemaObject schema) (second.toSchemaObject schema) := by
  unfold Bound.toSchemaObject
  exact .bind_eq h.requiredName fun name => .rfl

theorem toSchemaName (h : first.Matches none second) :
    Alike Eq first.toSchemaName second.toSchemaName := by
  unfold Bound.toSchemaName
  exact .bind_eq h.requiredName fun name => .rfl

theorem toMemberRename (h : first.Matches none second) :
    Alike Eq (first.toMemberRename schema) (second.toMemberRename schema) := by
  unfold Bound.toMemberRename
  refine .bind_eq h.requiredName fun name => ?_
  refine .bind_eq (h.required Expr.refuses_toText (by decide)) fun table => ?_
  exact .bind_eq (h.required Expr.refuses_toText (by decide)) fun newName => .rfl

theorem toObjectRename (h : first.Matches none second) :
    Alike Eq (first.toObjectRename schema) (second.toObjectRename schema) := by
  unfold Bound.toObjectRename
  refine .bind_eq h.requiredName fun name => ?_
  refine .bind_eq (h.optional Expr.refuses_toText (by decide)) fun newName => ?_
  exact .bind_eq (h.optional Expr.refuses_toText (by decide)) fun newSchema => .rfl

theorem toSequenceRestart (h : first.Matches none second) :
    Alike Eq (first.toSequenceRestart schema) (second.toSequenceRestart schema) := by
  unfold Bound.toSequenceRestart
  refine .bind_eq h.requiredName fun name => ?_
  exact .bind_eq (h.required Expr.refuses_toLong (by decide)) fun restartWith => .rfl

theorem toSqlText (h : first.Matches none second) :
    Alike Eq first.toSqlText second.toSqlText := by
  unfold Bound.toSqlText
  refine .bind_eq (h.required Expr.refuses_toText (by decide)) fun sql => ?_
  refine .bind (h.flag (by decide)) fun one two hflag => ?_
  rw [hflag]
  exact .rfl

/-- A block without constraints means as much as none. -/
theorem constraints (h : first.Matches identifier second) (table : Table)
    (declared : DeclaredColumns) :
    Alike Eq
      (first.optional Expr.toFunction "constraints" >>= fun
        | some function => table.addConstraints declared function
        | none => pure table)
      (second.optional Expr.toFunction "constraints" >>= fun
        | some function => table.addConstraints declared function
        | none => pure table) := by
  have hvalue := h.value "constraints" (by decide)
  unfold Bound.optional
  generalize first.value? "constraints" = one at hvalue
  generalize second.value? "constraints" = two at hvalue
  cases hvalue with
  | same => exact .rfl
  | default hdefault =>
    cases hdefault with
    | flag h => exact absurd h (by decide)
    | action h => exact absurd h (by decide)
    | constraints => exact .rfl
    | name h => exact absurd h (by decide)
  | function hfirst hsecond hsame =>
    dsimp only
    rw [Expr.toFunction_of_isFunction hfirst, Expr.toFunction_of_isFunction hsecond]
    exact hsame.addConstraints table declared

theorem ofBound (h : first.Matches none second) :
    Alike Eq (Table.ofBound first) (Table.ofBound second) := by
  unfold Table.ofBound
  refine .bind_eq h.requiredName fun name => ?_
  refine .bind_eq (h.optional Expr.refuses_toText (by decide)) fun schema => ?_
  refine .bind h.function fun one two hsame => ?_
  exact .bind_eq (hsame.declaredColumns _) fun declared => h.constraints _ _

/-- The same operation is described. -/
theorem toOperation (h : first.Matches none second) (kind : Kind) :
    Alike Eq (first.toOperation kind) (second.toOperation kind) := by
  unfold Bound.toOperation
  refine .bind_eq (h.optional Expr.refuses_toText (by decide)) fun schema => ?_
  cases kind with
  | addColumn | alterColumn => exact .bind_eq (h.toColumn schema) fun _ => .rfl
  | addForeignKey => exact .bind_eq (h.toForeignKey schema) fun _ => .rfl
  | addPrimaryKey | addUniqueConstraint => exact .bind_eq (h.toKey schema) fun _ => .rfl
  | alterSequence => exact .bind_eq (h.toSequenceChange schema) fun _ => .rfl
  | createIndex => exact .bind_eq (h.toIndex schema) fun _ => .rfl
  | createSchema | dropSchema => exact .bind_eq h.toSchemaName fun _ => .rfl
  | createSequence => exact .bind_eq (h.toSequence schema) fun _ => .rfl
  | createTable => exact .bind_eq h.ofBound fun _ => .rfl
  | dropColumn | dropForeignKey | dropIndex | dropPrimaryKey | dropUniqueConstraint =>
    exact .bind_eq (h.toTableMember schema) fun _ => .rfl
  | dropSequence | dropTable => exact .bind_eq (h.toSchemaObject schema) fun _ => .rfl
  | renameColumn | renameIndex => exact .bind_eq (h.toMemberRename schema) fun _ => .rfl
  | renameSequence | renameTable => exact .bind_eq (h.toObjectRename schema) fun _ => .rfl
  | restartSequence => exact .bind_eq (h.toSequenceRestart schema) fun _ => .rfl
  | sql => exact .bind_eq h.toSqlText fun _ => .rfl

end Matches

/-! ### Which values match -/

section Which

variable {identifier : Option String} {first second : Bound}

/-- Bound arguments match if the values of each parameter do. -/
theorem Matches.of_sameArgument
    (h : ∀ name, SameArgument identifier name (first.value? name) (second.value? name)) :
    first.Matches identifier second where
  value name _ := h name
  columns := alike_columns (by decide) (by decide) (h _) (h _)
  referencedColumns := alike_columns (by decide) (by decide) (h _) (h _)
  function := alike_required_toFunction (by decide) (h _)

theorem Matches.of_value?_eq (h : ∀ name, first.value? name = second.value? name) :
    first.Matches identifier second :=
  .of_sameArgument fun name => h name ▸ .same _

/-- The usual value of a parameter matches its absence. -/
theorem Matches.of_default {name : String} {value : Expr} (h : IsDefault identifier name value)
    (hnone : first.value? name = none) (hsome : second.value? name = some value)
    (hother : ∀ other, other ≠ name → first.value? other = second.value? other) :
    first.Matches identifier second := by
  refine .of_sameArgument fun other => ?_
  by_cases heq : other = name
  · rw [heq, hnone, hsome]
    exact .default h
  · rw [hother other heq]
    exact .same _

/-- An array of columns matches another way to give the same columns. -/
theorem Matches.of_array {singular plural : String} {items : List Expr} {span : Span}
    (hpair : (singular, plural) ∈ columnPairs) (hnone : first.value? plural = none)
    (harray : second.value? plural = some (.array items span))
    (hother : ∀ name, name ≠ singular → name ≠ plural → first.value? name = second.value? name)
    (hcolumns : Alike Eq (first.columns singular plural) (second.columns singular plural)) :
    first.Matches identifier second := by
  have hfunction : Alike SameFunction (first.required Expr.toFunction plural)
      (second.required Expr.toFunction plural) := by
    unfold Bound.required
    rw [hnone, harray]
    exact .error
  have hsame {name : String} (hsingular : name ≠ singular) (hplural : name ≠ plural) :
      SameArgument identifier name (first.value? name) (second.value? name) := by
    rw [hother name hsingular hplural]
    exact .same _
  have hpaired : ∀ pair ∈ columnPairs, pair.1 ∈ columnNames ∧ pair.2 ∈ columnNames := by decide
  have hvalue : ∀ name, name ∉ columnNames →
      SameArgument identifier name (first.value? name) (second.value? name) := fun name hname =>
    hsame (fun heq => hname (heq ▸ (hpaired _ hpair).1)) fun heq =>
      hname (heq ▸ (hpaired _ hpair).2)
  rw [columnPairs, List.mem_cons, List.mem_singleton] at hpair
  obtain heq | heq := hpair <;> cases heq
  · exact ⟨hvalue, hcolumns, alike_columns (by decide) (by decide) (hsame (by decide) (by decide))
      (hsame (by decide) (by decide)), hfunction⟩
  · exact ⟨hvalue, alike_columns (by decide) (by decide) (hsame (by decide) (by decide))
      (hsame (by decide) (by decide)), hcolumns,
      alike_required_toFunction (by decide) (hsame (by decide) (by decide))⟩

theorem columns_eq_nil {singular plural : String} (hsingular : first.value? singular = none)
    (hplural : first.value? plural = none) : first.columns singular plural = .ok [] := by
  unfold columns exclusive optional
  rw [hsingular, hplural]
  rfl

theorem columns_of_singular {singular plural text : String} {span : Span}
    (hsingular : first.value? singular = some (.constant (.string text) span))
    (hplural : first.value? plural = none) : first.columns singular plural = .ok [text] := by
  unfold columns exclusive optional
  rw [hsingular, hplural]
  rfl

theorem columns_of_plural {singular plural : String} {items : List Expr} {span : Span}
    (hsingular : first.value? singular = none)
    (hplural : first.value? plural = some (.array items span)) :
    first.columns singular plural = items.mapM (Expr.toText plural) := by
  unfold columns exclusive optional
  rw [hsingular, hplural]
  change (items.mapM (Expr.toText plural)).map some >>= (fun found => pure (found.getD [])) = _
  cases items.mapM (Expr.toText plural) <;> rfl

end Which

end Bound

end MigrationScript
