import MigrationScript.Proofs.Builder.Settings

namespace MigrationScript

/-- A call on the declaration of a table, with what is set in the column or the foreign key that it
declares. Columns are selected by handles, by their names or by places. -/
inductive TableCall (α : Type)
  | schema (name : String)
  | column (name type : String) (setters : List ColumnSetter)
  | primaryKey (name : String) (columns : List α)
  | unique (name : String) (columns : List α)
  | foreignKey (name : String) (columns : List α) (referencedTable : String)
    (setters : List ReferenceSetter)

namespace TableCall

variable {α β : Type}

/-- The call with the columns selected in another way. -/
def select (choose : List α → List β) : TableCall α → TableCall β
  | .schema name => .schema name
  | .column name type setters => .column name type setters
  | .primaryKey name columns => .primaryKey name (choose columns)
  | .unique name columns => .unique name (choose columns)
  | .foreignKey name columns referencedTable setters =>
    .foreignKey name (choose columns) referencedTable setters

/-- The call with its columns by name. -/
def named (call : TableCall ColumnHandle) : TableCall String :=
  call.select (·.map (·.name))

def steps : TableCall ColumnHandle → List TableStep
  | .schema name => [.schema name]
  | .column name type setters => .column name type :: setters.map .setColumn
  | .primaryKey name columns => [.primaryKey name columns]
  | .unique name columns => [.unique name columns]
  | .foreignKey name columns referencedTable setters =>
    .foreignKey name columns referencedTable :: setters.map .setReference

def schema? : TableCall α → Option String
  | .schema name => some name
  | _ => none

section Parts

variable (table : String) (schema : Option String)

/-! What a call declares in a table with a name and a schema. -/

def column? : TableCall α → Option Column
  | .column name type setters => some (.recorded name table type schema (setters.map .column))
  | _ => none

def primaryKey? : TableCall String → Option Key
  | .primaryKey name columns => some { name, schema, table, columns }
  | _ => none

def unique? : TableCall String → Option Key
  | .unique name columns => some { name, schema, table, columns }
  | _ => none

def foreignKey? : TableCall String → Option ForeignKey
  | .foreignKey name columns referencedTable setters =>
    some (.recorded name table columns referencedTable schema (setters.map .reference))
  | _ => none

end Parts

end TableCall

open TableCall

/-- The table that the calls describe: of several schemas or primary keys the last one stands. -/
def Table.ofCalls (name : String) (calls : List (TableCall String)) : Table :=
  let schema := (calls.filterMap schema?).getLast?
  { name, schema
    columns := calls.filterMap (column? name schema)
    primaryKey := (calls.filterMap (primaryKey? name schema)).getLast?
    foreignKeys := calls.filterMap (foreignKey? name schema)
    uniqueConstraints := calls.filterMap (unique? name schema) }

/-! ### Columns and foreign keys with their setters -/

theorem Column.foldl_set (name table type : String) (schema : Option String)
    (setters : List ColumnSetter) :
    setters.foldl Column.set { name, schema, table, type } =
      recorded name table type schema (setters.map .column) := by
  induction setters using List.reverseRecOn with
  | nil => rfl
  | append_singleton setters setter ih =>
    rw [List.foldl_append, ih, List.map_append, List.map_singleton, recorded_concat]
    rfl

theorem ForeignKey.foldl_set (name table : String) (columns : List String)
    (referencedTable : String) (schema : Option String) (setters : List ReferenceSetter) :
    setters.foldl ForeignKey.set { name, schema, table, columns, referencedTable } =
      recorded name table columns referencedTable schema (setters.map .reference) := by
  induction setters using List.reverseRecOn with
  | nil => rfl
  | append_singleton setters setter ih =>
    rw [List.foldl_append, ih, List.map_append, List.map_singleton, recorded_concat]
    rfl

namespace Table

variable (table : Table)

/-- Setters reach the column that was declared last. -/
theorem foldl_setColumn (columns : List Column) (column : Column) (setters : List ColumnSetter) :
    (setters.map .setColumn).foldl step { table with columns := columns ++ [column] } =
      { table with columns := columns ++ [setters.foldl Column.set column] } := by
  induction setters generalizing column with
  | nil => rfl
  | cons setter setters ih =>
    rw [List.map_cons, List.foldl_cons, step, modifyLast_concat]
    exact ih (column.set setter)

theorem foldl_setReference (keys : List ForeignKey) (key : ForeignKey)
    (setters : List ReferenceSetter) :
    (setters.map .setReference).foldl step { table with foreignKeys := keys ++ [key] } =
      { table with foreignKeys := keys ++ [setters.foldl ForeignKey.set key] } := by
  induction setters generalizing key with
  | nil => rfl
  | cons setter setters ih =>
    rw [List.map_cons, List.foldl_cons, step, modifyLast_concat]
    exact ih (key.set setter)

/-! ### One more call -/

section Schema

variable (name : String) (schema : Option String) (calls : List (TableCall String))

/-- The schema shows in the parts of a table and does not decide which parts there are. -/
theorem map_filterMap_schema {β : Type} {part : Option String → TableCall String → Option β}
    {change : β → β} {before : Option String}
    (h : ∀ call, (part before call).map change = part schema call) :
    (calls.filterMap (part before)).map change = calls.filterMap (part schema) := by
  rw [List.map_filterMap]
  congr 1
  funext call
  exact h call

theorem setSchema_ofCalls :
    (ofCalls name calls).setSchema schema =
      { name, schema
        columns := calls.filterMap (column? name schema)
        primaryKey := (calls.filterMap (primaryKey? name schema)).getLast?
        foreignKeys := calls.filterMap (foreignKey? name schema)
        uniqueConstraints := calls.filterMap (unique? name schema) } := by
  unfold setSchema ofCalls
  dsimp only
  rw [← List.getLast?_map]
  congr 1
  case e_primaryKey =>
    congr 1
    exact map_filterMap_schema schema calls fun call => by cases call <;> rfl
  all_goals exact map_filterMap_schema schema calls fun call => by cases call <;> rfl

end Schema

/-- One more call declares its part, or sets the schema of all parts. -/
theorem foldl_steps (name : String) (calls : List (TableCall String))
    (call : TableCall ColumnHandle) :
    call.steps.foldl step (ofCalls name calls) = ofCalls name (calls ++ [call.named]) := by
  cases call with
  | schema schema =>
    refine (setSchema_ofCalls name (some schema) calls).trans ?_
    simp [ofCalls, named, select, schema?, column?, primaryKey?, foreignKey?, unique?]
  | column column type setters =>
    have hset := foldl_setColumn (ofCalls name calls) (ofCalls name calls).columns
      { name := column, schema := (ofCalls name calls).schema, table := name, type } setters
    refine hset.trans ?_
    rw [Column.foldl_set]
    simp [ofCalls, named, select, schema?, column?, primaryKey?, foreignKey?, unique?]
  | primaryKey key columns =>
    simp [steps, step, newKey, ofCalls, named, select, schema?, column?, primaryKey?, foreignKey?,
      unique?]
  | unique key columns =>
    simp [steps, step, newKey, ofCalls, named, select, schema?, column?, primaryKey?, foreignKey?,
      unique?]
  | foreignKey key columns referencedTable setters =>
    have hset := foldl_setReference (ofCalls name calls) (ofCalls name calls).foreignKeys
      { name := key, schema := (ofCalls name calls).schema, table := name,
        columns := columns.map (·.name), referencedTable } setters
    refine hset.trans ?_
    rw [ForeignKey.foldl_set]
    simp [ofCalls, named, select, schema?, column?, primaryKey?, foreignKey?, unique?]

/-- A table is what its calls describe. -/
theorem foldl_calls (name : String) (calls : List (TableCall ColumnHandle)) :
    (calls.flatMap (·.steps)).foldl step { name } = ofCalls name (calls.map (·.named)) := by
  induction calls using List.reverseRecOn with
  | nil => rfl
  | append_singleton calls call ih =>
    rw [List.flatMap_append, List.flatMap_singleton, List.foldl_append, ih, foldl_steps,
      List.map_append, List.map_singleton]

end Table

end MigrationScript
