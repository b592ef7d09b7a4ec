import MigrationScript.Builder.Setter

/-!
# Declaring a table step by step

What is declared in a table takes its name and its schema from the table. The schema may be set
after the parts are there, so it is then set in each of them.
-/

namespace MigrationScript

/-- A column that constraints can select, and the schema of its table when it was declared. -/
structure ColumnHandle where
  name : String
  table : String
  schema : Option String
  deriving DecidableEq

inductive TableStep
  | schema (name : String)
  | column (name type : String)
  | setColumn (setter : ColumnSetter)
  | primaryKey (name : String) (columns : List ColumnHandle)
  | unique (name : String) (columns : List ColumnHandle)
  | foreignKey (name : String) (columns : List ColumnHandle) (referencedTable : String)
  | setReference (setter : ReferenceSetter)

def modifyLast {α : Type} (change : α → α) : List α → List α
  | [] => []
  | [last] => [change last]
  | first :: rest => first :: modifyLast change rest

@[simp]
theorem modifyLast_concat {α : Type} (change : α → α) (items : List α) (last : α) :
    modifyLast change (items ++ [last]) = items ++ [change last] := by
  induction items with
  | nil => rfl
  | cons first rest ih =>
    cases rest with
    | nil => rfl
    | cons second rest => exact congrArg (first :: ·) ih

namespace Table

/-- Sets the schema of the table and of all that is declared in it. -/
def setSchema (table : Table) (schema : Option String) : Table where
  name := table.name
  schema := schema
  columns := table.columns.map ({ · with schema })
  primaryKey := table.primaryKey.map ({ · with schema })
  foreignKeys := table.foreignKeys.map ({ · with schema })
  uniqueConstraints := table.uniqueConstraints.map ({ · with schema })

def newKey (table : Table) (name : String) (columns : List ColumnHandle) : Key :=
  { name, schema := table.schema, table := table.name, columns := columns.map (·.name) }

/-- A second primary key takes the place of the first; the schema of a later step reaches all that
was declared before; and a field is set in what was declared last. -/
def step (table : Table) : TableStep → Table
  | .schema name => table.setSchema (some name)
  | .column name type =>
    let column : Column := { name, schema := table.schema, table := table.name, type }
    { table with columns := table.columns ++ [column] }
  | .setColumn setter => { table with columns := modifyLast (·.set setter) table.columns }
  | .primaryKey name columns => { table with primaryKey := some (table.newKey name columns) }
  | .unique name columns =>
    { table with uniqueConstraints := table.uniqueConstraints ++ [table.newKey name columns] }
  | .foreignKey name columns referencedTable =>
    let key : ForeignKey :=
      { name, schema := table.schema, table := table.name, columns := columns.map (·.name),
        referencedTable }
    { table with foreignKeys := table.foreignKeys ++ [key] }
  | .setReference setter =>
    { table with foreignKeys := modifyLast (·.set setter) table.foreignKeys }

def handle? (table : Table) : Option ColumnHandle :=
  table.columns.getLast?.map fun column => ⟨column.name, column.table, column.schema⟩

end Table

end MigrationScript
