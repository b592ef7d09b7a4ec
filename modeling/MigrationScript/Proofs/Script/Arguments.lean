import MigrationScript.Meaning.Parameter
import MigrationScript.Script.Table

namespace MigrationScript

namespace WrittenArgument

/-- The arguments are for the parameters in their order, and only optional ones are left out. -/
inductive Fits : List WrittenArgument → List Parameter → Prop
  | nil : Fits [] []
  | given {argument : WrittenArgument} {parameter : Parameter} {arguments : List WrittenArgument}
      {parameters : List Parameter} (hname : argument.name = parameter.name)
      (h : Fits arguments parameters) : Fits (argument :: arguments) (parameter :: parameters)
  | omitted {name : String} {arguments : List WrittenArgument} {parameters : List Parameter}
      (h : Fits arguments parameters) : Fits arguments (.optional name :: parameters)

/-- The value of the argument with the given name. -/
def valueOf (arguments : List WrittenArgument) (name : String) : Option WrittenValue :=
  (arguments.find? (·.name == name)).map (·.value)

/-- The column of a list that has only one. -/
def single? : List String → Option String
  | [column] => some column
  | _ => none

/-- The columns of a list that has more than one. -/
def several? : List String → Option (List String)
  | first :: second :: rest => some (first :: second :: rest)
  | _ => none

section Fits

variable {first second arguments : List WrittenArgument} {parameters others : List Parameter}

namespace Fits

theorem append (hfirst : Fits first parameters) (hsecond : Fits second others) :
    Fits (first ++ second) (parameters ++ others) := by
  induction hfirst with
  | nil => exact hsecond
  | given hname _ ih => exact .given hname ih
  | omitted _ ih => exact .omitted ih

theorem sublist (h : Fits arguments parameters) :
    (arguments.map (·.name)).Sublist (parameters.map (·.name)) := by
  induction h with
  | nil => exact List.Sublist.refl _
  | given hname _ ih =>
    rw [List.map_cons, List.map_cons, hname]
    exact ih.cons_cons _
  | omitted _ ih => exact ih.cons _

theorem isSome_valueOf (h : Fits arguments parameters) :
    ∀ parameter ∈ parameters, parameter.isRequired = true →
      (valueOf arguments parameter.name).isSome = true := by
  induction h with
  | nil => exact fun _ hmem => absurd hmem List.not_mem_nil
  | @given argument first arguments parameters hname _ ih =>
    intro parameter hmem hrequired
    unfold valueOf
    rw [List.find?_cons]
    cases heq : argument.name == parameter.name with
    | true => rfl
    | false =>
      obtain rfl | hmem := List.mem_cons.mp hmem
      · exact absurd hname (beq_eq_false_iff_ne.mp heq)
      · exact ih parameter hmem hrequired
  | omitted _ ih =>
    intro parameter hmem hrequired
    obtain rfl | hmem := List.mem_cons.mp hmem
    · cases hrequired
    · exact ih parameter hmem hrequired

theorem isValid (h : Fits arguments parameters)
    (hnames : ∀ name ∈ parameters.map (·.name), Identifier.isValid name = true) :
    ∀ argument ∈ arguments, Identifier.isValid argument.name = true :=
  fun _ hargument => hnames _ (h.sublist.subset (List.mem_map_of_mem hargument))

end Fits

theorem fits_constant (name : String) (value : DefaultValue) (isRequired : Bool) :
    Fits (constant name value) [⟨name, isRequired⟩] :=
  .given rfl .nil

theorem fits_string (name text : String) (isRequired : Bool) :
    Fits (string name text) [⟨name, isRequired⟩] :=
  fits_constant name (.string text) isRequired

theorem fits_optional {α : Type} (name : String) (write : α → DefaultValue) (value : Option α) :
    Fits (optional name write value) [.optional name] := by
  cases value with
  | none => exact .omitted .nil
  | some value => exact fits_constant name (write value) false

theorem fits_flag (name : String) (value : Bool) : Fits (flag name value) [.optional name] := by
  cases value with
  | false => exact .omitted .nil
  | true => exact fits_constant name (.bool true) false

theorem fits_action (name : String) (value : ReferentialAction) :
    Fits (action name value) [.optional name] := by
  unfold action
  split
  · exact .omitted .nil
  · exact .given rfl .nil

theorem fits_columns (singular plural : String) (selected : List String) :
    Fits (columns singular plural selected) [.optional singular, .optional plural] := by
  unfold columns
  split
  · exact .omitted (.omitted .nil)
  · exact .given rfl (.omitted .nil)
  · exact .omitted (.given rfl .nil)

end Fits

section Given

variable {first second : List WrittenArgument} {name other : String}

@[simp]
theorem valueOf_nil : valueOf [] other = none :=
  rfl

@[simp]
theorem valueOf_append :
    valueOf (first ++ second) other = (valueOf first other).or (valueOf second other) := by
  unfold valueOf
  rw [List.find?_append]
  cases first.find? (·.name == other) <;> rfl

@[simp]
theorem valueOf_cons {argument : WrittenArgument} :
    valueOf (argument :: second) other =
      if argument.name = other then some argument.value else valueOf second other := by
  unfold valueOf
  rw [List.find?_cons]
  by_cases h : argument.name = other
  · rw [if_pos h, beq_iff_eq.mpr h]
    rfl
  · rw [if_neg h, beq_eq_false_iff_ne.mpr h]

@[simp]
theorem valueOf_string (text : String) :
    valueOf (string name text) other =
      if name = other then some (.constant (.string text)) else none :=
  valueOf_cons

@[simp]
theorem valueOf_constant (value : DefaultValue) :
    valueOf (constant name value) other = if name = other then some (.constant value) else none :=
  valueOf_cons

@[simp]
theorem valueOf_optional {α : Type} (write : α → DefaultValue) (value : Option α) :
    valueOf (optional name write value) other =
      if name = other then value.map fun value => .constant (write value) else none := by
  cases value with
  | none => exact (ite_self _).symm
  | some value => exact valueOf_cons

@[simp]
theorem valueOf_optionalString (text : Option String) :
    valueOf (optionalString name text) other =
      if name = other then text.map fun text => .constant (.string text) else none :=
  valueOf_optional .string text

@[simp]
theorem valueOf_flag (value : Bool) :
    valueOf (flag name value) other =
      if name = other then (if value then some (.constant (.bool true)) else none) else none := by
  cases value with
  | false => exact (ite_self _).symm
  | true => exact valueOf_cons

@[simp]
theorem valueOf_action (value : ReferentialAction) :
    valueOf (action name value) other =
      if name = other then (if value = .noAction then none else some (.action value))
      else none := by
  unfold action
  by_cases h : value = .noAction
  · rw [if_pos h, if_pos h]
    exact (ite_self _).symm
  · rw [if_neg h, if_neg h]
    exact valueOf_cons

@[simp]
theorem valueOf_columns {singular plural : String} (selected : List String) :
    valueOf (columns singular plural selected) other =
      (if singular = other then
        (single? selected).map fun column => .constant (.string column)
      else none).or
        (if plural = other then (several? selected).map .strings else none) := by
  match selected with
  | [] => simp [columns, single?, several?]
  | [column] => simp [columns, single?, several?]
  | first :: second :: rest => simp [columns, single?, several?]

end Given

end WrittenArgument

open WrittenArgument

theorem Column.fits_options (column : Column) :
    Fits column.options
      [.optional "nullable", .optional "defaultValue", .optional "defaultExpression"] :=
  ((fits_constant _ _ _).append (fits_optional _ _ _)).append (fits_optional _ _ _)

theorem ForeignKey.fits_reference (key : ForeignKey) :
    Fits key.reference
      [.optional "referencedSchema", .required "referencedTable", .optional "referencedColumn",
        .optional "referencedColumns", .optional "onUpdate", .optional "onDelete"] :=
  ((((fits_optional _ _ _).append (fits_string _ _ true)).append (fits_columns _ _ _)).append
    (fits_action _ _)).append (fits_action _ _)

namespace Operation

attribute [simp] writtenArguments

theorem fits_parameters {operation : Operation} (htable : operation.kind ≠ .createTable) :
    Fits operation.writtenArguments operation.kind.parameters := by
  have hobject (name : String) (schema : Option String) :
      Fits (string "name" name ++ optionalString "schema" schema)
        [.required "name", .optional "schema"] :=
    (fits_string _ _ true).append (fits_optional _ _ _)
  have hmember (name : String) (schema : Option String) (table : String) :
      Fits (string "name" name ++ optionalString "schema" schema ++ string "table" table)
        [.required "name", .optional "schema", .required "table"] :=
    (hobject name schema).append (fits_string _ _ true)
  cases operation with
  | createTable table => exact absurd rfl htable
  | addColumn column | alterColumn column =>
    exact ((hmember _ _ _).append (fits_string _ _ true)).append column.fits_options
  | addForeignKey key =>
    exact ((hmember _ _ _).append (fits_columns _ _ _)).append key.fits_reference
  | addPrimaryKey key | addUniqueConstraint key =>
    exact (hmember _ _ _).append (fits_columns _ _ _)
  | createIndex index =>
    exact ((hmember _ _ _).append (fits_columns _ _ _)).append (fits_flag _ _)
  | alterSequence change =>
    exact ((((hobject _ _).append (fits_optional _ _ _)).append (fits_optional _ _ _)).append
      (fits_optional _ _ _)).append (fits_flag _ _)
  | createSequence sequence =>
    exact ((((((hobject _ _).append (fits_optional _ _ _)).append
      (fits_optional _ _ _)).append (fits_optional _ _ _)).append
      (fits_optional _ _ _)).append (fits_optional _ _ _)).append (fits_flag _ _)
  | createSchema schema | dropSchema schema => exact fits_string _ _ _
  | dropColumn member | dropForeignKey member | dropIndex member | dropPrimaryKey member
  | dropUniqueConstraint member => exact hmember _ _ _
  | dropSequence object | dropTable object => exact hobject _ _
  | renameColumn rename | renameIndex rename =>
    exact (hmember _ _ _).append (fits_string _ _ _)
  | renameSequence rename | renameTable rename =>
    exact ((hobject _ _).append (fits_optional _ _ _)).append (fits_optional _ _ _)
  | restartSequence restart => exact (hobject _ _).append (fits_constant _ _ _)
  | sql statement => exact (fits_string _ _ true).append (fits_flag _ _)

end Operation

end MigrationScript
