import MigrationScript.Meaning.Table
import MigrationScript.Proofs.Meaning.Steps

namespace MigrationScript

/-- Every part of the table names the table and its schema. -/
structure Table.Owns (table : Table) : Prop where
  columns : ∀ column ∈ table.columns, column.table = table.name ∧ column.schema = table.schema
  primaryKey : ∀ key ∈ table.primaryKey, key.table = table.name ∧ key.schema = table.schema
  foreignKeys : ∀ key ∈ table.foreignKeys, key.table = table.name ∧ key.schema = table.schema
  uniqueConstraints :
    ∀ key ∈ table.uniqueConstraints, key.table = table.name ∧ key.schema = table.schema

namespace Bound

variable (bound : Bound)

theorem ensures_columnOptions (column : Column) :
    Ensures (bound.columnOptions column) fun read =>
      read.name = column.name ∧ read.schema = column.schema ∧ read.table = column.table ∧
        read.type = column.type := by
  unfold columnOptions
  iterate 4 refine .bind fun _ _ => ?_
  exact .ok ⟨rfl, rfl, rfl, rfl⟩

theorem ensures_reference (key : ForeignKey) :
    Ensures (bound.reference key) fun read =>
      read.name = key.name ∧ read.schema = key.schema ∧ read.table = key.table ∧
        read.columns = key.columns := by
  unfold reference
  iterate 5 refine .bind fun _ _ => ?_
  exact .ok ⟨rfl, rfl, rfl, rfl⟩

end Bound

namespace Table

variable {table : Table} {declared : DeclaredColumns} {parameter identifier : String}

theorem owns_empty (name : String) (schema : Option String) : Owns { name, schema } := by
  constructor <;> simp

theorem ensures_column (call : Call) :
    Ensures (table.column parameter identifier call) fun column =>
      column.table = table.name ∧ column.schema = table.schema := by
  unfold column
  refine .bind fun _ _ => ?_
  split
  · exact .error
  iterate 3 refine .bind fun _ _ => ?_
  exact (Bound.ensures_columnOptions _ _).mono fun column h => ⟨h.2.2.1, h.2.1⟩

theorem ensures_key (call : Call) :
    Ensures (table.key declared call) fun key =>
      key.table = table.name ∧ key.schema = table.schema := by
  unfold key
  iterate 4 refine .bind fun _ _ => ?_
  exact .ok ⟨rfl, rfl⟩

theorem ensures_foreignKey (call : Call) :
    Ensures (table.foreignKey declared call) fun key =>
      key.table = table.name ∧ key.schema = table.schema := by
  unfold foreignKey
  iterate 4 refine .bind fun _ _ => ?_
  exact (Bound.ensures_reference _ _).mono fun key h => ⟨h.2.2.1, h.2.1⟩

/-- The columns declared so far name the table and its schema. -/
def OwnsDeclared (table : Table) (declared : DeclaredColumns) : Prop :=
  ∀ entry ∈ declared, entry.2.table = table.name ∧ entry.2.schema = table.schema

theorem ensures_addColumn (hdeclared : table.OwnsDeclared declared) (member : Member) :
    Ensures (table.addColumn parameter declared member) table.OwnsDeclared := by
  unfold addColumn
  split
  · exact .error
  · refine .bind fun column hcolumn => ?_
    split
    · exact .error
    · refine .ok fun entry hentry => ?_
      obtain hentry | hentry := List.mem_append.mp hentry
      · exact hdeclared entry hentry
      · rw [List.mem_singleton.mp hentry]
        exact ensures_column _ column hcolumn
  · exact .error

theorem ensures_declaredColumns (function : Expr) :
    Ensures (table.declaredColumns function) table.OwnsDeclared := by
  unfold declaredColumns
  split
  · refine ensures_foldlM (fun _ _ _ hdeclared => ensures_addColumn hdeclared _) ?_
    exact fun entry hentry => absurd hentry List.not_mem_nil
  · exact .error
  · exact .error

/-- What a constraint that is declared leaves as it is. -/
theorem ensures_addConstraint (hown : table.Owns) (call : Call) :
    Ensures (addConstraint parameter declared table call) Owns := by
  unfold addConstraint
  refine .bind fun _ _ => ?_
  split
  · split
    · exact .error
    · refine .bind fun key hkey => .ok { hown with primaryKey := fun found hfound => ?_ }
      cases hfound
      exact ensures_key _ key hkey
  · refine .bind fun key hkey => .ok { hown with foreignKeys := fun found hfound => ?_ }
    obtain hfound | hfound := List.mem_append.mp hfound
    · exact hown.foreignKeys found hfound
    · rw [List.mem_singleton.mp hfound]
      exact ensures_foreignKey _ key hkey
  · refine .bind fun key hkey => .ok { hown with uniqueConstraints := fun found hfound => ?_ }
    obtain hfound | hfound := List.mem_append.mp hfound
    · exact hown.uniqueConstraints found hfound
    · rw [List.mem_singleton.mp hfound]
      exact ensures_key _ key hkey
  · exact .error

theorem ensures_addConstraints (hown : table.Owns) (function : Expr) :
    Ensures (table.addConstraints declared function) Owns := by
  unfold addConstraints
  split
  · exact ensures_foldlM (fun _ _ _ hown => ensures_addConstraint hown _) hown
  · exact .error

/-- In a table that has been read every part names the table and its schema. -/
theorem ensures_ofBound (bound : Bound) : Ensures (ofBound bound) Owns := by
  unfold ofBound
  refine .bind fun name _ => .bind fun schema _ => .bind fun function _ => ?_
  refine .bind fun declared hdeclared => ?_
  have hown : Owns { name, schema, columns := declared.map (·.2) } := by
    refine { owns_empty name schema with columns := fun column hcolumn => ?_ }
    obtain ⟨entry, hentry, rfl⟩ := List.mem_map.mp hcolumn
    exact ensures_declaredColumns function declared hdeclared entry hentry
  refine .bind fun constraints _ => ?_
  split
  · exact ensures_addConstraints hown _
  · exact .ok hown

end Table

end MigrationScript
