import MigrationScript.Operation.Fault
import MigrationScript.Proofs.Meaning.Owned

namespace MigrationScript

namespace Fault

variable {kind : Kind} {field : String} {α : Type}

theorem ite_eq_none_iff {condition : Prop} [Decidable condition] {fault : Fault} :
    (if condition then some fault else none) = none ↔ ¬condition := by
  split
  · exact iff_of_false (Option.some_ne_none fault) (not_not_intro ‹_›)
  · exact iff_of_true rfl ‹_›

theorem ifMissing_eq_none_iff {text : String} : ifMissing kind field text = none ↔ text ≠ "" :=
  ite_eq_none_iff

theorem ifEmpty_eq_none_iff {text : Option String} :
    ifEmpty kind field text = none ↔ text ≠ some "" :=
  ite_eq_none_iff

theorem ifNoColumns_eq_none_iff {columns : List α} :
    ifNoColumns kind columns = none ↔ columns.isEmpty = false := by
  unfold ifNoColumns
  rw [ite_eq_none_iff, Bool.not_eq_true]

end Fault

theorem Operation.fault?_eq_none_iff {operation : Operation} :
    operation.fault? = none ↔ ∀ fault ∈ operation.faults, fault = none := by
  rw [fault?, Fault.first, List.findSome?_eq_none_iff]
  rfl

theorem fault?_eq_none_iff {operations : List Operation} :
    fault? operations = none ↔ ∀ operation ∈ operations, operation.fault? = none :=
  List.findSome?_eq_none_iff

/-- A column has at most one of a default value and a default expression. -/
def Column.OneDefault (column : Column) : Prop :=
  (column.defaultValue.isSome && column.defaultExpression.isSome) = false

theorem Column.definitionFaults_iff {kind : Kind} {column : Column} :
    (∀ fault ∈ column.definitionFaults kind, fault = none) ↔
      column.name ≠ "" ∧ column.type ≠ "" ∧ column.OneDefault := by
  simp only [definitionFaults, List.forall_mem_cons, Fault.ifMissing_eq_none_iff,
    Fault.ite_eq_none_iff, List.not_mem_nil, false_imp_iff, implies_true, and_true,
    Bool.not_eq_true, OneDefault]

theorem Column.oneDefault_of_faults {kind : Kind} {column : Column}
    (h : ∀ fault ∈ column.definitionFaults kind, fault = none) : column.OneDefault :=
  (definitionFaults_iff.mp h).2.2

namespace Table

/-- The table declares every column of the list. -/
def Declares (table : Table) (selected : List String) : Prop :=
  ∀ name ∈ selected, ∃ column ∈ table.columns, column.name = name

/-- The table can be declared part by part: its parts belong to it, an identifier tells a column,
and constraints select columns that there are. -/
structure Writable (table : Table) : Prop where
  owns : table.Owns
  oneDefault : ∀ column ∈ table.columns, column.OneDefault
  identifiers : (table.columns.map fun column => Identifier.derive column.name).Nodup
  primaryKey : ∀ key ∈ table.primaryKey, table.Declares key.columns
  foreignKeys : ∀ key ∈ table.foreignKeys, table.Declares key.columns
  uniqueConstraints : ∀ key ∈ table.uniqueConstraints, table.Declares key.columns

/-- What the parts of the table have: they name the table and its schema, the columns have names and
types, one default each and identifiers of their own, and the constraints have names and columns that
the table declares. -/
structure Complete (table : Table) : Prop where
  owns : table.Owns
  columnTexts : ∀ column ∈ table.columns, column.name ≠ "" ∧ column.type ≠ ""
  oneDefault : ∀ column ∈ table.columns, column.OneDefault
  identifiers : (table.columns.map fun column => Identifier.derive column.name).Nodup
  keys : ∀ key ∈ table.primaryKey.toList ++ table.uniqueConstraints,
    key.name ≠ "" ∧ key.columns ≠ [] ∧ table.Declares key.columns
  foreignKeys : ∀ key ∈ table.foreignKeys,
    key.name ≠ "" ∧ key.columns ≠ [] ∧ table.Declares key.columns ∧
      key.referencedSchema ≠ some "" ∧ key.referencedTable ≠ ""

theorem Complete.writable {table : Table} (h : table.Complete) : table.Writable where
  owns := h.owns
  oneDefault := h.oneDefault
  identifiers := h.identifiers
  primaryKey := fun key hkey =>
    (h.keys key (List.mem_append_left _ (Option.mem_toList.mpr hkey))).2.2
  foreignKeys := fun key hkey => (h.foreignKeys key hkey).2.2.1
  uniqueConstraints := fun key hkey => (h.keys key (List.mem_append_right _ hkey)).2.2

variable {table : Table} {kind : Kind}

theorem ifStray_iff {name : String} {schema : Option String} :
    (∀ fault ∈ table.ifStray kind name schema, fault = none) ↔
      name = table.name ∧ schema = table.schema := by
  simp only [ifStray, List.forall_mem_cons, Fault.ite_eq_none_iff, Decidable.not_not,
    List.not_mem_nil, false_imp_iff, implies_true, and_true]

theorem ifUndeclared_eq_none_iff {selected : List String} :
    table.ifUndeclared kind selected = none ↔ table.Declares selected := by
  rw [ifUndeclared, Option.map_eq_none_iff, List.find?_eq_none]
  refine forall₂_congr fun name _ => ?_
  rw [Bool.not_eq_true, Bool.not_eq_false', List.any_eq_true]
  simp only [beq_iff_eq]

theorem ifCollision_eq_none_iff {earlier : List Column} {column : Column} :
    table.ifCollision earlier column = none ↔
      ∀ first ∈ earlier, Identifier.derive first.name ≠ Identifier.derive column.name := by
  rw [ifCollision, Option.map_eq_none_iff, List.find?_eq_none]
  simp only [beq_iff_eq, ne_eq]

theorem columnFaults_iff {earlier columns : List Column}
    (hearlier : (earlier.map fun column => Identifier.derive column.name).Nodup) :
    (∀ fault ∈ table.columnFaults earlier columns, fault = none) ↔
      (∀ column ∈ columns, (column.table = table.name ∧ column.schema = table.schema) ∧
        column.name ≠ "" ∧ column.type ≠ "" ∧ column.OneDefault) ∧
      ((earlier ++ columns).map fun column => Identifier.derive column.name).Nodup := by
  -- The identifiers in front are kept, so that each column is compared with all before it.
  induction columns generalizing earlier with
  | nil =>
    rw [List.append_nil]
    exact iff_of_true (fun _ hmem => absurd hmem List.not_mem_nil)
      ⟨fun _ hmem => absurd hmem List.not_mem_nil, hearlier⟩
  | cons column rest ih =>
    have hfresh : (∀ first ∈ earlier,
        Identifier.derive first.name ≠ Identifier.derive column.name) ↔
        ((earlier ++ [column]).map fun column => Identifier.derive column.name).Nodup := by
      rw [List.map_append, List.nodup_append, List.map_singleton]
      simp [hearlier]
    have hmiddle : earlier ++ column :: rest = (earlier ++ [column]) ++ rest := by
      rw [List.append_assoc]
      rfl
    unfold columnFaults
    rw [List.forall_mem_append, List.forall_mem_append, List.forall_mem_cons, ifStray_iff,
      Column.definitionFaults_iff, ifCollision_eq_none_iff, List.forall_mem_cons, hfresh, hmiddle]
    constructor
    · rintro ⟨hcolumn, hnodup, hrest⟩
      obtain ⟨hothers, hall⟩ := (ih hnodup).mp hrest
      exact ⟨⟨hcolumn, hothers⟩, hall⟩
    · rintro ⟨⟨hcolumn, hothers⟩, hall⟩
      have hnodup : ((earlier ++ [column]).map fun column =>
          Identifier.derive column.name).Nodup := by
        rw [List.map_append] at hall
        exact (List.nodup_append.mp hall).1
      exact ⟨hcolumn, hnodup, (ih hnodup).mpr ⟨hothers, hall⟩⟩

theorem keyFaults_iff {key : Key} :
    (∀ fault ∈ table.keyFaults kind key, fault = none) ↔
      (key.table = table.name ∧ key.schema = table.schema) ∧
        key.name ≠ "" ∧ key.columns ≠ [] ∧ table.Declares key.columns := by
  simp only [keyFaults, List.forall_mem_append, ifStray_iff, List.forall_mem_cons,
    Fault.ifMissing_eq_none_iff, Fault.ifNoColumns_eq_none_iff, List.isEmpty_eq_false_iff,
    ifUndeclared_eq_none_iff, List.not_mem_nil, false_imp_iff, implies_true, and_true]

theorem foreignKeyFaults_iff {key : ForeignKey} :
    (∀ fault ∈ table.foreignKeyFaults key, fault = none) ↔
      (key.table = table.name ∧ key.schema = table.schema) ∧
        key.name ≠ "" ∧ key.columns ≠ [] ∧ table.Declares key.columns ∧
          key.referencedSchema ≠ some "" ∧ key.referencedTable ≠ "" := by
  simp only [foreignKeyFaults, List.forall_mem_append, ifStray_iff, List.forall_mem_cons,
    Fault.ifMissing_eq_none_iff, Fault.ifEmpty_eq_none_iff, Fault.ifNoColumns_eq_none_iff,
    List.isEmpty_eq_false_iff, ifUndeclared_eq_none_iff, List.not_mem_nil, false_imp_iff,
    implies_true, and_true]

theorem forall_flatMap_iff {α : Type} {items : List α} {faults : α → List (Option Fault)} :
    (∀ fault ∈ items.flatMap faults, fault = none) ↔
      ∀ item ∈ items, ∀ fault ∈ faults item, fault = none := by
  simp only [List.mem_flatMap, forall_exists_index, and_imp]
  exact ⟨fun h item hitem fault hfault => h fault item hitem hfault,
    fun h fault item hitem hfault => h item hitem fault hfault⟩

/-- A table without faults has a name and columns, no schema that is empty, and complete parts. -/
theorem faults_iff :
    (∀ fault ∈ table.faults, fault = none) ↔
      (table.name ≠ "" ∧ table.schema ≠ some "" ∧ table.columns ≠ []) ∧ table.Complete := by
  have hcolumns := @columnFaults_iff table [] table.columns List.nodup_nil
  rw [List.nil_append] at hcolumns
  unfold faults
  simp only [List.forall_mem_append, List.forall_mem_cons, forall_flatMap_iff, hcolumns,
    keyFaults_iff, foreignKeyFaults_iff, Fault.ifMissing_eq_none_iff, Fault.ifEmpty_eq_none_iff,
    Fault.ifNoColumns_eq_none_iff, List.isEmpty_eq_false_iff, List.not_mem_nil, false_imp_iff,
    implies_true, and_true, and_assoc, Option.mem_toList]
  constructor
  · rintro ⟨hname, hschema, hne, hcolumns, hidentifiers, hprimary, hforeign, hunique⟩
    refine ⟨hname, hschema, hne, ?_⟩
    exact {
      owns := {
        columns := fun column hcolumn =>
          ⟨(hcolumns column hcolumn).1, (hcolumns column hcolumn).2.1⟩
        primaryKey := fun key hkey => ⟨(hprimary key hkey).1, (hprimary key hkey).2.1⟩
        foreignKeys := fun key hkey => ⟨(hforeign key hkey).1, (hforeign key hkey).2.1⟩
        uniqueConstraints := fun key hkey => ⟨(hunique key hkey).1, (hunique key hkey).2.1⟩ }
      columnTexts := fun column hcolumn =>
        ⟨(hcolumns column hcolumn).2.2.1, (hcolumns column hcolumn).2.2.2.1⟩
      oneDefault := fun column hcolumn => (hcolumns column hcolumn).2.2.2.2
      identifiers := hidentifiers
      keys := List.forall_mem_append.mpr
        ⟨fun key hkey => (hprimary key (Option.mem_toList.mp hkey)).2.2,
          fun key hkey => (hunique key hkey).2.2⟩
      foreignKeys := fun key hkey => (hforeign key hkey).2.2 }
  · rintro ⟨hname, hschema, hne, h⟩
    obtain ⟨hprimary, hunique⟩ := List.forall_mem_append.mp h.keys
    refine ⟨hname, hschema, hne, fun column hcolumn => ?_, h.identifiers, fun key hkey => ?_,
      fun key hkey => ?_, fun key hkey => ?_⟩
    · obtain ⟨htable, hschema⟩ := h.owns.columns column hcolumn
      obtain ⟨hname, htype⟩ := h.columnTexts column hcolumn
      exact ⟨htable, hschema, hname, htype, h.oneDefault column hcolumn⟩
    · obtain ⟨htable, hschema⟩ := h.owns.primaryKey key hkey
      exact ⟨htable, hschema, hprimary key (Option.mem_toList.mpr hkey)⟩
    · obtain ⟨htable, hschema⟩ := h.owns.foreignKeys key hkey
      exact ⟨htable, hschema, h.foreignKeys key hkey⟩
    · obtain ⟨htable, hschema⟩ := h.owns.uniqueConstraints key hkey
      exact ⟨htable, hschema, hunique key hkey⟩

theorem writable_of_faults (h : ∀ fault ∈ table.faults, fault = none) : table.Writable :=
  (faults_iff.mp h).2.writable

end Table

end MigrationScript
