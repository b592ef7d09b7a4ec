import MigrationScript.Builder.Recorder
import Mathlib.Data.List.Induction

namespace MigrationScript

/-! ### Fields and their setters -/

/-- The fields that setters set. -/
inductive OptionalField
  | schema
  | isNullable
  | defaultValue
  | defaultExpression
  | referencedSchema
  | referencedColumns
  | onUpdate
  | onDelete
  | incrementBy
  | minValue
  | maxValue
  | cycle
  | sequenceType
  | startWith
  | isUnique
  | newName
  | newSchema
  | suppressTransaction
  deriving DecidableEq

def OptionalField.Value : OptionalField → Type
  | .schema | .defaultExpression | .referencedSchema | .sequenceType | .newName | .newSchema =>
    String
  | .isNullable | .cycle | .isUnique | .suppressTransaction => Bool
  | .defaultValue => DefaultValue
  | .referencedColumns => List String
  | .onUpdate | .onDelete => ReferentialAction
  | .incrementBy => Int32
  | .minValue | .maxValue | .startWith => Int64

namespace Setter

def field : Setter → OptionalField
  | .schema _ => .schema
  | .column (.nullable _) => .isNullable
  | .column (.defaultValue _) => .defaultValue
  | .column (.defaultExpression _) => .defaultExpression
  | .reference (.referencedSchema _) => .referencedSchema
  | .reference (.referencedColumns _) => .referencedColumns
  | .reference (.onUpdate _) => .onUpdate
  | .reference (.onDelete _) => .onDelete
  | .incrementBy _ => .incrementBy
  | .minValue _ => .minValue
  | .maxValue _ => .maxValue
  | .cycle _ => .cycle
  | .sequenceType _ => .sequenceType
  | .startWith _ => .startWith
  | .unique _ => .isUnique
  | .newName _ => .newName
  | .newSchema _ => .newSchema
  | .suppressTransaction _ => .suppressTransaction

/-- What the setter gives the field, if it is one of the field. -/
def value? : (field : OptionalField) → Setter → Option field.Value
  | .schema, .schema name => some name
  | .isNullable, .column (.nullable value) => some value
  | .defaultValue, .column (.defaultValue value) => some value
  | .defaultExpression, .column (.defaultExpression expression) => some expression
  | .referencedSchema, .reference (.referencedSchema name) => some name
  | .referencedColumns, .reference (.referencedColumns columns) => some columns
  | .onUpdate, .reference (.onUpdate action) => some action
  | .onDelete, .reference (.onDelete action) => some action
  | .incrementBy, .incrementBy value => some value
  | .minValue, .minValue value => some value
  | .maxValue, .maxValue value => some value
  | .cycle, .cycle value => some value
  | .sequenceType, .sequenceType type => some type
  | .startWith, .startWith value => some value
  | .isUnique, .unique value => some value
  | .newName, .newName name => some name
  | .newSchema, .newSchema name => some name
  | .suppressTransaction, .suppressTransaction value => some value
  | _, _ => none

theorem value?_of_ne {field : OptionalField} {setter : Setter} (h : setter.field ≠ field) :
    setter.value? field = none := by
  unfold value?
  split
  case h_19 => rfl
  all_goals exact absurd rfl h

end Setter

/-- What the last setter of a field gives it. -/
def lastSet (field : OptionalField) (setters : List Setter) : Option field.Value :=
  (setters.filterMap (Setter.value? field)).getLast?

section LastSet

variable {field : OptionalField} {setter : Setter} {setters : List Setter}

theorem lastSet_append (first second : List Setter) :
    lastSet field (first ++ second) = (lastSet field second).or (lastSet field first) := by
  rw [lastSet, List.filterMap_append, List.getLast?_append]
  rfl

theorem lastSet_concat (setters : List Setter) (setter : Setter) :
    lastSet field (setters ++ [setter]) = (setter.value? field).or (lastSet field setters) := by
  rw [lastSet_append]
  congr 1
  unfold lastSet
  cases h : setter.value? field <;> simp [h]

/-- Setters of different fields do not depend on their order. -/
theorem lastSet_swap {first second : Setter} (h : first.field ≠ second.field)
    (front back : List Setter) :
    lastSet field (front ++ first :: second :: back) =
      lastSet field (front ++ second :: first :: back) := by
  have hnone : first.value? field = none ∨ second.value? field = none := by
    by_cases hfirst : first.field = field
    · exact .inr (Setter.value?_of_ne fun hsecond => h (hfirst.trans hsecond.symm))
    · exact .inl (Setter.value?_of_ne hfirst)
  obtain hnone | hnone := hnone <;>
    simp [lastSet, List.filterMap_cons, hnone]

end LastSet

/-! ### What is recorded -/

/-- A column with what the setters give it. -/
def Column.recorded (name table type : String) (schema : Option String) (setters : List Setter) :
    Column where
  name := name
  schema := schema
  table := table
  type := type
  isNullable := (lastSet .isNullable setters).getD false
  defaultValue := lastSet .defaultValue setters
  defaultExpression := lastSet .defaultExpression setters

/-- A foreign key with what the setters give it. -/
def ForeignKey.recorded (name table : String) (columns : List String) (referencedTable : String)
    (schema : Option String) (setters : List Setter) : ForeignKey where
  name := name
  schema := schema
  table := table
  columns := columns
  referencedSchema := lastSet .referencedSchema setters
  referencedTable := referencedTable
  referencedColumns := (lastSet .referencedColumns setters).getD []
  onUpdate := (lastSet .onUpdate setters).getD .noAction
  onDelete := (lastSet .onDelete setters).getD .noAction

/-- The operation that an entry and the setters behind it describe: what the entry gives and, in
each field that it leaves open, what the last setter of the field gives, or else the default. -/
def Entry.recorded (entry : Entry) (setters : List Setter) : Operation :=
  let schema := lastSet .schema setters
  let incrementBy := lastSet .incrementBy setters
  let minValue := lastSet .minValue setters
  let maxValue := lastSet .maxValue setters
  let cycle := (lastSet .cycle setters).getD false
  let newSchema := lastSet .newSchema setters
  match entry with
  | .addColumn name table type => .addColumn (.recorded name table type schema setters)
  | .addForeignKey name table columns referencedTable =>
    .addForeignKey (.recorded name table columns referencedTable schema setters)
  | .addPrimaryKey name table columns => .addPrimaryKey { name, schema, table, columns }
  | .addUniqueConstraint name table columns => .addUniqueConstraint { name, schema, table, columns }
  | .alterColumn name table type => .alterColumn (.recorded name table type schema setters)
  | .alterSequence name =>
    .alterSequence { name, schema, incrementBy, minValue, maxValue, cycle }
  | .createIndex name table columns =>
    .createIndex
      { name, schema, table, columns, isUnique := (lastSet .isUnique setters).getD false }
  | .createSchema name => .createSchema { name }
  | .createSequence name =>
    .createSequence
      { name, schema, type := lastSet .sequenceType setters
        startWith := lastSet .startWith setters, incrementBy, minValue, maxValue, cycle }
  | .createTable name => .createTable { name }
  | .dropColumn name table => .dropColumn { name, schema, table }
  | .dropForeignKey name table => .dropForeignKey { name, schema, table }
  | .dropIndex name table => .dropIndex { name, schema, table }
  | .dropPrimaryKey name table => .dropPrimaryKey { name, schema, table }
  | .dropSchema name => .dropSchema { name }
  | .dropSequence name => .dropSequence { name, schema }
  | .dropTable name => .dropTable { name, schema }
  | .dropUniqueConstraint name table => .dropUniqueConstraint { name, schema, table }
  | .renameColumn name table newName => .renameColumn { name, schema, table, newName }
  | .renameIndex name table newName => .renameIndex { name, schema, table, newName }
  | .renameSequence name =>
    .renameSequence { name, schema, newName := lastSet .newName setters, newSchema }
  | .renameTable name =>
    .renameTable { name, schema, newName := lastSet .newName setters, newSchema }
  | .restartSequence name restartWith => .restartSequence { name, schema, restartWith }
  | .sql text =>
    .sql { sql := text, suppressTransaction := (lastSet .suppressTransaction setters).getD false }

theorem Column.recorded_concat (name table type : String) (schema : Option String)
    (setters : List Setter) (setter : ColumnSetter) :
    recorded name table type schema (setters ++ [.column setter]) =
      (recorded name table type schema setters).set setter := by
  unfold recorded
  simp only [lastSet_concat]
  cases setter <;> rfl

theorem ForeignKey.recorded_concat (name table : String) (columns : List String)
    (referencedTable : String) (schema : Option String) (setters : List Setter)
    (setter : ReferenceSetter) :
    recorded name table columns referencedTable schema (setters ++ [.reference setter]) =
      (recorded name table columns referencedTable schema setters).set setter := by
  unfold recorded
  simp only [lastSet_concat]
  cases setter <;> rfl

namespace Entry

variable (entry : Entry)

theorem recorded_nil : entry.recorded [] = entry.operation := by
  cases entry <;> rfl

/-- One more setter sets its field and no other. -/
theorem recorded_concat (setters : List Setter) (setter : Setter) :
    entry.recorded (setters ++ [setter]) = (entry.recorded setters).set setter := by
  unfold recorded Column.recorded ForeignKey.recorded
  simp only [lastSet_concat]
  cases setter with
  | column setter => cases setter <;> cases entry <;> rfl
  | reference setter => cases setter <;> cases entry <;> rfl
  | _ => cases entry <;> rfl

/-- An operation that is entered and then set is the one that the entry and the setters describe. -/
theorem foldl_set (setters : List Setter) :
    setters.foldl Operation.set entry.operation = entry.recorded setters := by
  induction setters using List.reverseRecOn with
  | nil => exact entry.recorded_nil.symm
  | append_singleton setters setter ih =>
    rw [List.foldl_append, ih, recorded_concat, List.foldl_cons, List.foldl_nil]

theorem recorded_congr {first second : List Setter}
    (h : ∀ field, lastSet field first = lastSet field second) :
    entry.recorded first = entry.recorded second := by
  unfold recorded Column.recorded ForeignKey.recorded
  simp only [h]

end Entry

end MigrationScript
