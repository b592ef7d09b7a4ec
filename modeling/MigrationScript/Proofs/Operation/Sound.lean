import MigrationScript.Proofs.Operation.Writable

namespace MigrationScript

/-- The constraints of the table select columns of the table. -/
structure Table.Selects (table : Table) : Prop where
  primaryKey : ∀ key ∈ table.primaryKey, table.Declares key.columns
  foreignKeys : ∀ key ∈ table.foreignKeys, table.Declares key.columns
  uniqueConstraints : ∀ key ∈ table.uniqueConstraints, table.Declares key.columns

/-- The parts of the table belong to it, its columns have one default each, and its constraints
select them. -/
structure Table.Sound (table : Table) : Prop where
  owns : table.Owns
  oneDefault : ∀ column ∈ table.columns, column.OneDefault
  selects : table.Selects

/-- The parts of the operation fit together: a column has one default, a key or an index has columns,
and a table is sound. -/
def Operation.Sound : Operation → Prop
  | .addColumn column | .alterColumn column => column.OneDefault
  | .addForeignKey key => key.columns ≠ []
  | .addPrimaryKey key | .addUniqueConstraint key => key.columns ≠ []
  | .createIndex index => index.columns ≠ []
  | .createTable table => table.Sound
  | _ => True

/-- The fault is that of a text: it is missing or empty, or it does not tell a column from others. -/
inductive Fault.OfText : Fault → Prop
  | missingField (kind : Kind) (field : String) : Fault.OfText (.missingField kind field)
  | emptyField (kind : Kind) (field : String) : Fault.OfText (.emptyField kind field)
  | identifierCollision (table identifier first second : String) :
      Fault.OfText (.identifierCollision table identifier first second)

namespace Fault

/-- Among what is looked for only texts are at fault. -/
def OnlyOfText (found : List (Option Fault)) : Prop :=
  ∀ fault, some fault ∈ found → fault.OfText

variable {kind : Kind} {field text : String} {fault : Fault}

theorem ofText_of_ifMissing (h : ifMissing kind field text = some fault) : fault.OfText := by
  unfold ifMissing at h
  split at h
  · cases h
    exact .missingField kind field
  · cases h

theorem ofText_of_ifEmpty {text : Option String} (h : ifEmpty kind field text = some fault) :
    fault.OfText := by
  unfold ifEmpty at h
  split at h
  · cases h
    exact .emptyField kind field
  · cases h

theorem ofText_of_ifNoColumns {α : Type} {columns : List α}
    (h : ifNoColumns kind columns = some fault) : fault.OfText := by
  unfold ifNoColumns at h
  split at h
  · cases h
    exact .missingField kind "columns"
  · cases h

theorem onlyOfText_nil : OnlyOfText [] :=
  fun _ hmem => absurd hmem List.not_mem_nil

theorem OnlyOfText.cons {first : Option Fault} {rest : List (Option Fault)}
    (hfirst : ∀ fault, first = some fault → fault.OfText) (hrest : OnlyOfText rest) :
    OnlyOfText (first :: rest) := by
  intro fault hmem
  obtain heq | hmem := List.mem_cons.mp hmem
  · exact hfirst fault heq.symm
  · exact hrest fault hmem

theorem OnlyOfText.append {found further : List (Option Fault)} (hfound : OnlyOfText found)
    (hfurther : OnlyOfText further) : OnlyOfText (found ++ further) := by
  intro fault hmem
  obtain hmem | hmem := List.mem_append.mp hmem
  · exact hfound fault hmem
  · exact hfurther fault hmem

theorem onlyOfText_flatMap {α : Type} {items : List α} {faults : α → List (Option Fault)}
    (h : ∀ item ∈ items, OnlyOfText (faults item)) : OnlyOfText (items.flatMap faults) := by
  intro fault hmem
  obtain ⟨item, hitem, hmem⟩ := List.mem_flatMap.mp hmem
  exact h item hitem fault hmem

variable {found : List (Option Fault)} (h : OnlyOfText found)

include h

theorem OnlyOfText.missing : OnlyOfText (ifMissing kind field text :: found) :=
  .cons (fun _ => ofText_of_ifMissing) h

theorem OnlyOfText.empty {text : Option String} : OnlyOfText (ifEmpty kind field text :: found) :=
  .cons (fun _ => ofText_of_ifEmpty) h

theorem OnlyOfText.noColumns {α : Type} {columns : List α} :
    OnlyOfText (ifNoColumns kind columns :: found) :=
  .cons (fun _ => ofText_of_ifNoColumns) h

theorem OnlyOfText.none : OnlyOfText (.none :: found) :=
  .cons (fun _ => nofun) h

end Fault

open Fault

theorem Column.OneDefault.onlyOfText {column : Column} (h : column.OneDefault) (kind : Kind) :
    OnlyOfText (column.definitionFaults kind) := by
  unfold OneDefault at h
  unfold definitionFaults
  rw [h]
  exact onlyOfText_nil.none.missing.missing

namespace Table

variable {table : Table} {kind : Kind}

theorem onlyOfText_ifStray {name : String} {schema : Option String} (hname : name = table.name)
    (hschema : schema = table.schema) : OnlyOfText (table.ifStray kind name schema) := by
  unfold ifStray
  rw [if_neg (Decidable.not_not.mpr hname), if_neg (Decidable.not_not.mpr hschema)]
  exact onlyOfText_nil.none.none

theorem ofText_of_ifCollision {earlier : List Column} {column : Column} {fault : Fault}
    (h : table.ifCollision earlier column = some fault) : fault.OfText := by
  obtain ⟨first, -, rfl⟩ := Option.map_eq_some_iff.mp h
  exact .identifierCollision _ _ _ _

theorem onlyOfText_columnFaults {columns : List Column}
    (hown : ∀ column ∈ columns, column.table = table.name ∧ column.schema = table.schema)
    (hdefault : ∀ column ∈ columns, column.OneDefault) (earlier : List Column) :
    OnlyOfText (table.columnFaults earlier columns) := by
  induction columns generalizing earlier with
  | nil => exact onlyOfText_nil
  | cons column rest ih =>
    rw [List.forall_mem_cons] at hown hdefault
    unfold columnFaults
    refine ((onlyOfText_ifStray hown.1.1 hown.1.2).append (hdefault.1.onlyOfText _)).append ?_
    exact .cons (fun _ => ofText_of_ifCollision) (ih hown.2 hdefault.2 _)

theorem onlyOfText_keyFaults {key : Key}
    (hown : key.table = table.name ∧ key.schema = table.schema)
    (hdeclares : table.Declares key.columns) : OnlyOfText (table.keyFaults kind key) := by
  unfold keyFaults
  rw [ifUndeclared_eq_none_iff.mpr hdeclares]
  exact (onlyOfText_ifStray hown.1 hown.2).append onlyOfText_nil.none.noColumns.missing

theorem onlyOfText_foreignKeyFaults {key : ForeignKey}
    (hown : key.table = table.name ∧ key.schema = table.schema)
    (hdeclares : table.Declares key.columns) : OnlyOfText (table.foreignKeyFaults key) := by
  unfold foreignKeyFaults
  dsimp only
  rw [ifUndeclared_eq_none_iff.mpr hdeclares]
  exact (onlyOfText_ifStray hown.1 hown.2).append
    onlyOfText_nil.missing.empty.none.noColumns.missing

theorem Sound.onlyOfText (h : table.Sound) : OnlyOfText table.faults := by
  have hcolumns := onlyOfText_columnFaults h.owns.columns h.oneDefault []
  have hprimaryKey : OnlyOfText
      (table.primaryKey.toList.flatMap (table.keyFaults .addPrimaryKey)) := by
    refine onlyOfText_flatMap fun key hkey => ?_
    rw [Option.mem_toList] at hkey
    exact onlyOfText_keyFaults (h.owns.primaryKey key hkey) (h.selects.primaryKey key hkey)
  have hforeignKeys : OnlyOfText (table.foreignKeys.flatMap table.foreignKeyFaults) :=
    onlyOfText_flatMap fun key hkey => onlyOfText_foreignKeyFaults
      (h.owns.foreignKeys key hkey) (h.selects.foreignKeys key hkey)
  have hunique : OnlyOfText
      (table.uniqueConstraints.flatMap (table.keyFaults .addUniqueConstraint)) :=
    onlyOfText_flatMap fun key hkey => onlyOfText_keyFaults
      (h.owns.uniqueConstraints key hkey) (h.selects.uniqueConstraints key hkey)
  have hhead : OnlyOfText [ifMissing .createTable "name" table.name,
      ifEmpty .createTable "schema" table.schema, ifNoColumns .createTable table.columns] :=
    onlyOfText_nil.noColumns.empty.missing
  unfold faults
  exact (((hhead.append hcolumns).append hprimaryKey).append hforeignKeys).append hunique

end Table

namespace Operation

variable {operation : Operation}

theorem Sound.onlyOfText (h : operation.Sound) : OnlyOfText operation.faults := by
  cases operation with
  | addColumn column | alterColumn column =>
    exact (Column.OneDefault.onlyOfText h _).empty.missing
  | addForeignKey key => exact onlyOfText_nil.missing.empty.noColumns.missing.empty.missing
  | addPrimaryKey key | addUniqueConstraint key =>
    exact onlyOfText_nil.noColumns.missing.empty.missing
  | createIndex index => exact onlyOfText_nil.noColumns.missing.empty.missing
  | alterSequence change => exact onlyOfText_nil.empty.missing
  | createSequence sequence => exact onlyOfText_nil.empty.empty.missing
  | createSchema schema | dropSchema schema => exact onlyOfText_nil.missing
  | createTable table => exact Table.Sound.onlyOfText h
  | dropColumn member | dropForeignKey member | dropIndex member | dropPrimaryKey member
  | dropUniqueConstraint member => exact onlyOfText_nil.missing.empty.missing
  | dropSequence object | dropTable object => exact onlyOfText_nil.empty.missing
  | renameColumn rename | renameIndex rename =>
    exact onlyOfText_nil.missing.missing.empty.missing
  | renameSequence rename | renameTable rename =>
    exact onlyOfText_nil.empty.empty.empty.missing
  | restartSequence restart => exact onlyOfText_nil.empty.missing
  | sql statement => exact onlyOfText_nil.missing

/-- The first fault of a sound operation is that of a text. -/
theorem Sound.ofText (h : operation.Sound) {fault : Fault} (hfault : operation.fault? = some fault) :
    fault.OfText := by
  obtain ⟨found, hmem, hfound⟩ := List.exists_of_findSome?_eq_some hfault
  exact h.onlyOfText fault (hfound ▸ hmem)

end Operation

end MigrationScript
