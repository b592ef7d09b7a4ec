import MigrationScript.Operation.Same

/-!
# One NaN for all

A script has one word for every NaN, so that the payload of a NaN is lost in it. The canonical form
of an operation is what can come back.
-/

namespace MigrationScript

/-- The double itself, or the usual NaN for every NaN. -/
def Double.canonical (value : Double) : Double :=
  if value.isNaN then .nan else value

theorem Double.same_canonical (value : Double) : value.same value.canonical = !value.isNaN := by
  unfold same canonical
  by_cases h : value.isNaN = true
  · rw [h]
    rfl
  · rw [if_neg h, Bool.eq_false_iff.mpr h, beq_self_eq_true]
    rfl

theorem Double.canonical_of_isNaN {value : Double} (h : value.isNaN = false) :
    value.canonical = value := by
  rw [canonical, h]
  rfl

namespace DefaultValue

def canonical : DefaultValue → DefaultValue
  | .double value => .double value.canonical
  | value => value

theorem canonical_of_isNaN {value : DefaultValue} (h : value.isNaN = false) :
    value.canonical = value := by
  cases value with
  | double value => exact congrArg _ (Double.canonical_of_isNaN h)
  | _ => rfl

theorem same_canonical (value : DefaultValue) : value.same value.canonical = !value.isNaN := by
  cases value with
  | double value => exact value.same_canonical
  | _ => exact beq_self_eq_true _

end DefaultValue

namespace Column

def canonical (column : Column) : Column :=
  { column with defaultValue := column.defaultValue.map (·.canonical) }

/-- The default of the column is not a number. -/
def hasNaN (column : Column) : Bool :=
  column.defaultValue.any (·.isNaN)

theorem canonical_of_hasNaN {column : Column} (h : column.hasNaN = false) :
    column.canonical = column := by
  obtain ⟨name, schema, table, type, isNullable, defaultValue, defaultExpression⟩ := column
  cases defaultValue with
  | none => rfl
  | some value =>
    have hvalue := DefaultValue.canonical_of_isNaN h
    rw [canonical, Option.map_some, hvalue]

theorem same_canonical (column : Column) : column.same column.canonical = !column.hasNaN := by
  unfold same canonical hasNaN
  rw [beq_self_eq_true, Bool.true_and]
  cases column.defaultValue with
  | none => rfl
  | some value => exact value.same_canonical

theorem sameColumns_canonical (columns : List Column) :
    sameColumns columns (columns.map (·.canonical)) = !columns.any (·.hasNaN) := by
  induction columns with
  | nil => rfl
  | cons column rest ih =>
    rw [List.map_cons, sameColumns, same_canonical, ih, List.any_cons, Bool.not_or]

end Column

namespace Operation

/-- The operation with the usual NaN for every default that is not a number. -/
def canonical : Operation → Operation
  | .addColumn column => .addColumn column.canonical
  | .alterColumn column => .alterColumn column.canonical
  | .createTable table =>
    .createTable { table with columns := table.columns.map (·.canonical) }
  | operation => operation

/-- Some default in the operation is not a number. -/
def hasNaN : Operation → Bool
  | .addColumn column | .alterColumn column => column.hasNaN
  | .createTable table => table.columns.any (·.hasNaN)
  | _ => false

theorem canonical_of_hasNaN {operation : Operation} (h : operation.hasNaN = false) :
    operation.canonical = operation := by
  cases operation with
  | addColumn column | alterColumn column => exact congrArg _ (Column.canonical_of_hasNaN h)
  | createTable table =>
    have hcolumns : table.columns.map (·.canonical) = table.columns := by
      refine (List.map_congr_left fun column hmem => ?_).trans (List.map_id _)
      exact Column.canonical_of_hasNaN (Bool.eq_false_iff.mpr (List.any_eq_false.mp h column hmem))
    rw [canonical, hcolumns]
  | _ => rfl

theorem same_canonical (operation : Operation) :
    operation.same operation.canonical = !operation.hasNaN := by
  cases operation with
  | addColumn column | alterColumn column => exact column.same_canonical
  | createTable table =>
    have hcolumns := Column.sameColumns_canonical table.columns
    rw [canonical, same, Table.same, hcolumns, beq_self_eq_true, Bool.true_and]
    rfl
  | _ => exact beq_self_eq_true _

end Operation

end MigrationScript
