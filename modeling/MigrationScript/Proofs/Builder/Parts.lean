import MigrationScript.Builder.Recorder
import MigrationScript.Operation.Fault
import MigrationScript.Proofs.Meaning.Owned

/-!
# Parts of a table

Each step is told by what it adds and by what it leaves alone, and a run of steps by the list of its
steps. That the parts belong to their table is then an invariant of the steps.
-/

namespace MigrationScript

/-! ### Parts of a table -/

/-- What a column is declared with. No later step changes it. -/
def Column.signature (column : Column) : String × String :=
  (column.name, column.type)

def Key.signature (key : Key) : String × List String :=
  (key.name, key.columns)

def ForeignKey.signature (key : ForeignKey) : String × List String × String :=
  (key.name, key.columns, key.referencedTable)

namespace TableStep

def schema? : TableStep → Option String
  | .schema name => some name
  | _ => none

def column? : TableStep → Option (String × String)
  | .column name type => some (name, type)
  | _ => none

def primaryKey? : TableStep → Option (String × List String)
  | .primaryKey name columns => some (name, columns.map (·.name))
  | _ => none

def foreignKey? : TableStep → Option (String × List String × String)
  | .foreignKey name columns referencedTable =>
    some (name, columns.map (·.name), referencedTable)
  | _ => none

def unique? : TableStep → Option (String × List String)
  | .unique name columns => some (name, columns.map (·.name))
  | _ => none

end TableStep

namespace Table

/-- The table with what the steps declare behind its own parts, in their order: a constraint has the
names of the columns that it was given. Of several schemas or primary keys the last one stands. -/
structure Extends (table : Table) (steps : List TableStep) (after : Table) : Prop where
  name_eq : after.name = table.name
  schema_eq : after.schema = (steps.filterMap TableStep.schema?).getLast?.or table.schema
  columns_eq : after.columns.map Column.signature =
    table.columns.map Column.signature ++ steps.filterMap TableStep.column?
  primaryKey_eq : after.primaryKey.map Key.signature =
    (steps.filterMap TableStep.primaryKey?).getLast?.or (table.primaryKey.map Key.signature)
  foreignKeys_eq : after.foreignKeys.map ForeignKey.signature =
    table.foreignKeys.map ForeignKey.signature ++ steps.filterMap TableStep.foreignKey?
  uniqueConstraints_eq : after.uniqueConstraints.map Key.signature =
    table.uniqueConstraints.map Key.signature ++ steps.filterMap TableStep.unique?

end Table

/-! ### One step -/

section Steps

variable {α β : Type} {items : List α} {last : α}

/-- A step that declares nothing of a sort leaves what is declared of that sort. -/
theorem filterMap_concat_none {view : α → Option β} (h : view last = none) :
    (items ++ [last]).filterMap view = items.filterMap view := by
  rw [List.filterMap_append, List.filterMap_cons_none h, List.filterMap_nil, List.append_nil]

theorem filterMap_concat_some (view : α → Option β) {value : β} (h : view last = some value) :
    (items ++ [last]).filterMap view = items.filterMap view ++ [value] := by
  rw [List.filterMap_append, List.filterMap_cons_some h, List.filterMap_nil]

variable {change : α → α}

theorem map_modifyLast {view : α → β} (h : ∀ item, view (change item) = view item) :
    (modifyLast change items).map view = items.map view := by
  fun_induction modifyLast change items with
  | case1 => rfl
  | case2 last => rw [List.map_cons, List.map_cons, h]
  | case3 first rest _ ih => rw [List.map_cons, List.map_cons, ih]

theorem forall_mem_modifyLast {holds : α → Prop} (hitems : ∀ item ∈ items, holds item)
    (hchange : ∀ item, holds item → holds (change item)) :
    ∀ item ∈ modifyLast change items, holds item := by
  fun_induction modifyLast change items with
  | case1 => exact hitems
  | case2 last =>
    rw [List.forall_mem_singleton] at hitems ⊢
    exact hchange last hitems
  | case3 first rest _ ih =>
    rw [List.forall_mem_cons] at hitems ⊢
    exact ⟨hitems.1, ih hitems.2⟩

end Steps

@[simp]
theorem Column.signature_set (column : Column) (setter : ColumnSetter) :
    (column.set setter).signature = column.signature := by
  cases setter <;> rfl

@[simp]
theorem ForeignKey.signature_set (key : ForeignKey) (setter : ReferenceSetter) :
    (key.set setter).signature = key.signature := by
  cases setter <;> rfl

theorem Column.parent_set (column : Column) (setter : ColumnSetter) :
    (column.set setter).table = column.table ∧ (column.set setter).schema = column.schema := by
  cases setter <;> exact ⟨rfl, rfl⟩

theorem ForeignKey.parent_set (key : ForeignKey) (setter : ReferenceSetter) :
    (key.set setter).table = key.table ∧ (key.set setter).schema = key.schema := by
  cases setter <;> exact ⟨rfl, rfl⟩

namespace Table

variable {table after : Table} {steps : List TableStep}

theorem Owns.setSchema (h : table.Owns) (schema : Option String) :
    (table.setSchema schema).Owns where
  columns := List.forall_mem_map.mpr fun column hcolumn => ⟨(h.columns column hcolumn).1, rfl⟩
  primaryKey := by
    intro key hkey
    obtain ⟨before, hbefore, rfl⟩ := Option.map_eq_some_iff.mp hkey
    exact ⟨(h.primaryKey before hbefore).1, rfl⟩
  foreignKeys := List.forall_mem_map.mpr fun key hkey => ⟨(h.foreignKeys key hkey).1, rfl⟩
  uniqueConstraints := List.forall_mem_map.mpr fun key hkey =>
    ⟨(h.uniqueConstraints key hkey).1, rfl⟩

theorem Owns.step (h : table.Owns) (step : TableStep) : (table.step step).Owns := by
  cases step with
  | schema name => exact h.setSchema (some name)
  | column name type =>
    refine { h with columns := List.forall_mem_append.mpr ⟨h.columns, ?_⟩ }
    exact List.forall_mem_singleton.mpr ⟨rfl, rfl⟩
  | setColumn setter =>
    refine { h with columns := forall_mem_modifyLast h.columns fun column hcolumn => ?_ }
    obtain ⟨htable, hschema⟩ := column.parent_set setter
    exact ⟨htable.trans hcolumn.1, hschema.trans hcolumn.2⟩
  | primaryKey name columns =>
    refine { h with primaryKey := ?_ }
    rintro _ ⟨⟩
    exact ⟨rfl, rfl⟩
  | unique name columns =>
    refine { h with
      uniqueConstraints := List.forall_mem_append.mpr ⟨h.uniqueConstraints, ?_⟩ }
    exact List.forall_mem_singleton.mpr ⟨rfl, rfl⟩
  | foreignKey name columns referencedTable =>
    refine { h with foreignKeys := List.forall_mem_append.mpr ⟨h.foreignKeys, ?_⟩ }
    exact List.forall_mem_singleton.mpr ⟨rfl, rfl⟩
  | setReference setter =>
    refine { h with foreignKeys := forall_mem_modifyLast h.foreignKeys fun key hkey => ?_ }
    obtain ⟨htable, hschema⟩ := key.parent_set setter
    exact ⟨htable.trans hkey.1, hschema.trans hkey.2⟩

theorem Extends.refl (table : Table) : table.Extends [] table :=
  ⟨rfl, rfl, (List.append_nil _).symm, rfl, (List.append_nil _).symm, (List.append_nil _).symm⟩

theorem Extends.step (h : table.Extends steps after) (step : TableStep) :
    table.Extends (steps ++ [step]) (after.step step) := by
  obtain ⟨hname, hschema, hcolumns, hprimaryKey, hforeignKeys, hunique⟩ := h
  cases step with
  | schema schema =>
    refine ⟨hname, ?_, ?_, ?_, ?_, ?_⟩
    · rw [filterMap_concat_some TableStep.schema? rfl, List.getLast?_concat]
      rfl
    · rw [filterMap_concat_none rfl, ← hcolumns]
      exact List.map_map
    · rw [filterMap_concat_none rfl, ← hprimaryKey]
      exact Option.map_map _ _ _
    · rw [filterMap_concat_none rfl, ← hforeignKeys]
      exact List.map_map
    · rw [filterMap_concat_none rfl, ← hunique]
      exact List.map_map
  | column name type =>
    refine ⟨hname, ?_, ?_, ?_, ?_, ?_⟩
    case refine_2 =>
      rw [filterMap_concat_some TableStep.column? rfl, ← List.append_assoc, ← hcolumns]
      exact List.map_append
    all_goals rwa [filterMap_concat_none rfl]
  | setColumn setter =>
    refine ⟨hname, ?_, ?_, ?_, ?_, ?_⟩ <;> rw [filterMap_concat_none rfl]
    case refine_2 =>
      exact (map_modifyLast fun column => column.signature_set setter).trans hcolumns
    all_goals assumption
  | primaryKey name columns =>
    refine ⟨hname, ?_, ?_, ?_, ?_, ?_⟩
    case refine_3 =>
      rw [filterMap_concat_some TableStep.primaryKey? rfl, List.getLast?_concat]
      rfl
    all_goals rwa [filterMap_concat_none rfl]
  | unique name columns =>
    refine ⟨hname, ?_, ?_, ?_, ?_, ?_⟩
    case refine_5 =>
      rw [filterMap_concat_some TableStep.unique? rfl, ← List.append_assoc, ← hunique]
      exact List.map_append
    all_goals rwa [filterMap_concat_none rfl]
  | foreignKey name columns referencedTable =>
    refine ⟨hname, ?_, ?_, ?_, ?_, ?_⟩
    case refine_4 =>
      rw [filterMap_concat_some TableStep.foreignKey? rfl, ← List.append_assoc, ← hforeignKeys]
      exact List.map_append
    all_goals rwa [filterMap_concat_none rfl]
  | setReference setter =>
    refine ⟨hname, ?_, ?_, ?_, ?_, ?_⟩ <;> rw [filterMap_concat_none rfl]
    case refine_4 =>
      exact (map_modifyLast fun key => key.signature_set setter).trans hforeignKeys
    all_goals assumption

/-- What holds of each step holds of all steps behind each other. -/
theorem owns_foldl (h : table.Owns) (steps : List TableStep) :
    (steps.foldl Table.step table).Owns := by
  induction steps generalizing table with
  | nil => exact h
  | cons step rest ih => exact ih (h.step step)

theorem extends_foldl (table : Table) (steps : List TableStep) :
    table.Extends steps (steps.foldl Table.step table) := by
  -- The steps taken so far are left open, so that the last one is that of the step lemma.
  suffices h : ∀ done after, table.Extends done after →
      table.Extends (done ++ steps) (steps.foldl Table.step after) from h [] table (.refl table)
  induction steps with
  | nil =>
    intro done after hdone
    rwa [List.append_nil]
  | cons step rest ih =>
    intro done after hdone
    rw [List.append_cons]
    exact ih _ _ (hdone.step step)

end Table

/-! ### Runs -/

/-- A change of the operation that was recorded last. -/
inductive Change
  | set (setter : Setter)
  | declare (step : TableStep)

namespace Change

def recording : Change → Recording
  | .set setter => .set setter
  | .declare step => .declare step

def tableStep? : Change → Option TableStep
  | .set _ => none
  | .declare step => some step

def apply (operation : Operation) : Change → Operation
  | .set setter => operation.set setter
  | .declare step => operation.declare step

end Change

/-- A call that records an operation, and the changes of this operation up to the next call. -/
structure BuilderCall where
  entry : Entry
  changes : List Change

namespace BuilderCall

def recordings (call : BuilderCall) : List Recording :=
  .entry call.entry :: call.changes.map (·.recording)

def operation (call : BuilderCall) : Operation :=
  call.changes.foldl Change.apply call.entry.operation

def tableSteps (call : BuilderCall) : List TableStep :=
  call.changes.filterMap (·.tableStep?)

end BuilderCall

/-- What a run of calls records. -/
def recordCalls (calls : List BuilderCall) : List Operation :=
  recordSteps [] (calls.flatMap (·.recordings))

theorem recordSteps_changes (recorded : List Operation) (operation : Operation)
    (changes : List Change) :
    recordSteps (recorded ++ [operation]) (changes.map (·.recording)) =
      recorded ++ [changes.foldl Change.apply operation] := by
  induction changes generalizing operation with
  | nil => rfl
  | cons change rest ih =>
    have hstep : recordStep (recorded ++ [operation]) change.recording =
        recorded ++ [change.apply operation] := by
      cases change <;> exact modifyLast_concat _ _ _
    rw [List.map_cons, recordSteps, List.foldl_cons, hstep]
    exact ih _

/-- Each call records one operation, which depends on nothing but the call and its changes. -/
theorem recordSteps_calls (recorded : List Operation) (calls : List BuilderCall) :
    recordSteps recorded (calls.flatMap (·.recordings)) =
      recorded ++ calls.map (·.operation) := by
  induction calls generalizing recorded with
  | nil => exact (List.append_nil recorded).symm
  | cons call rest ih =>
    have hcall : recordSteps recorded call.recordings = recorded ++ [call.operation] :=
      recordSteps_changes recorded _ _
    rw [List.flatMap_cons, recordSteps, List.foldl_append, ← recordSteps, ← recordSteps, hcall, ih,
      List.append_assoc]
    rfl

theorem recordCalls_eq (calls : List BuilderCall) :
    recordCalls calls = calls.map (·.operation) :=
  recordSteps_calls [] calls

theorem Operation.kind_setSchema (operation : Operation) (name : String) :
    (operation.setSchema name).kind = operation.kind := by
  cases operation <;> rfl

theorem Operation.kind_set (operation : Operation) (setter : Setter) :
    (operation.set setter).kind = operation.kind := by
  unfold set
  split
  case h_1 => exact operation.kind_setSchema _
  all_goals rfl

theorem Change.kind_apply (change : Change) (operation : Operation) :
    (change.apply operation).kind = operation.kind := by
  cases change with
  | set setter => exact operation.kind_set setter
  | declare step => cases operation <;> rfl

/-- Only the steps of a declaration change a table. -/
theorem foldl_apply_createTable (changes : List Change) (table : Table) :
    changes.foldl Change.apply (.createTable table) =
      .createTable ((changes.filterMap (·.tableStep?)).foldl Table.step table) := by
  induction changes generalizing table with
  | nil => rfl
  | cons change rest ih =>
    cases change with
    | set setter =>
      have hset : Change.apply (.createTable table) (.set setter) = .createTable table := by
        cases setter <;> rfl
      rw [List.foldl_cons, hset, List.filterMap_cons_none rfl]
      exact ih table
    | declare step => exact ih (table.step step)

theorem kind_foldl_apply (changes : List Change) (operation : Operation) :
    (changes.foldl Change.apply operation).kind = operation.kind := by
  induction changes generalizing operation with
  | nil => rfl
  | cons change rest ih => exact (ih _).trans (change.kind_apply operation)

/-- A recorded table comes from a call that declares a table, and from the steps behind it. -/
theorem BuilderCall.of_operation_eq_createTable {call : BuilderCall} {table : Table}
    (h : call.operation = .createTable table) :
    ∃ name, call.entry = .createTable name ∧
      table = call.tableSteps.foldl Table.step { name } := by
  obtain ⟨entry, changes⟩ := call
  have hkind : entry.operation.kind = .createTable :=
    (kind_foldl_apply changes entry.operation).symm.trans (congrArg Operation.kind h)
  cases entry with
  | createTable name =>
    have htable := (foldl_apply_createTable changes { name }).symm.trans h
    exact ⟨name, rfl, (Operation.createTable.inj htable).symm⟩
  | _ => cases hkind

/-! ### Parents -/

namespace Fault

variable {kind : Kind} {field text : String}

/-- What is found is not that a part has another parent. -/
def NotStray (found : Option Fault) : Prop :=
  ∀ kind field table, found ≠ some (.parentMismatch kind field table)

theorem notStray_none : NotStray none :=
  fun _ _ _ => nofun

theorem notStray_ifMissing : NotStray (ifMissing kind field text) := by
  unfold ifMissing
  split <;> exact fun _ _ _ => nofun

theorem notStray_ifEmpty {text : Option String} : NotStray (ifEmpty kind field text) := by
  unfold ifEmpty
  split <;> exact fun _ _ _ => nofun

theorem notStray_ifNoColumns {α : Type} {columns : List α} :
    NotStray (ifNoColumns kind columns) := by
  unfold ifNoColumns
  split <;> exact fun _ _ _ => nofun

end Fault

open Fault

theorem Column.notStray_definitionFaults (column : Column) (kind : Kind) :
    ∀ found ∈ column.definitionFaults kind, NotStray found := by
  unfold definitionFaults
  refine List.forall_mem_cons.mpr ⟨notStray_ifMissing, ?_⟩
  refine List.forall_mem_cons.mpr ⟨notStray_ifMissing, List.forall_mem_singleton.mpr ?_⟩
  split <;> exact fun _ _ _ => nofun

namespace Table

variable {table : Table} {kind : Kind}

theorem notStray_ifStray {name : String} {schema : Option String}
    (h : name = table.name ∧ schema = table.schema) :
    ∀ found ∈ table.ifStray kind name schema, NotStray found := by
  unfold ifStray
  rw [if_neg (Decidable.not_not.mpr h.1), if_neg (Decidable.not_not.mpr h.2)]
  exact List.forall_mem_cons.mpr ⟨notStray_none, List.forall_mem_singleton.mpr notStray_none⟩

theorem notStray_ifUndeclared (selected : List String) :
    NotStray (table.ifUndeclared kind selected) := by
  intro _ _ _ h
  obtain ⟨_, -, heq⟩ := Option.map_eq_some_iff.mp h
  cases heq

theorem notStray_ifCollision (earlier : List Column) (column : Column) :
    NotStray (table.ifCollision earlier column) := by
  intro _ _ _ h
  obtain ⟨_, -, heq⟩ := Option.map_eq_some_iff.mp h
  cases heq

theorem notStray_columnFaults {columns : List Column}
    (h : ∀ column ∈ columns, column.table = table.name ∧ column.schema = table.schema)
    (earlier : List Column) : ∀ found ∈ table.columnFaults earlier columns, NotStray found := by
  induction columns generalizing earlier with
  | nil => exact fun _ hmem => absurd hmem List.not_mem_nil
  | cons column rest ih =>
    rw [List.forall_mem_cons] at h
    unfold columnFaults
    simp only [List.forall_mem_append, List.forall_mem_cons]
    exact ⟨⟨notStray_ifStray h.1, column.notStray_definitionFaults _⟩,
      notStray_ifCollision earlier column, ih h.2 _⟩

theorem notStray_keyFaults {key : Key} (h : key.table = table.name ∧ key.schema = table.schema) :
    ∀ found ∈ table.keyFaults kind key, NotStray found := by
  unfold keyFaults
  simp only [List.forall_mem_append, List.forall_mem_cons]
  exact ⟨notStray_ifStray h, notStray_ifMissing, notStray_ifNoColumns, notStray_ifUndeclared _,
    fun _ hmem => absurd hmem List.not_mem_nil⟩

theorem notStray_foreignKeyFaults {key : ForeignKey}
    (h : key.table = table.name ∧ key.schema = table.schema) :
    ∀ found ∈ table.foreignKeyFaults key, NotStray found := by
  unfold foreignKeyFaults
  simp only [List.forall_mem_append, List.forall_mem_cons]
  exact ⟨notStray_ifStray h, notStray_ifMissing, notStray_ifNoColumns, notStray_ifUndeclared _,
    notStray_ifEmpty, notStray_ifMissing, fun _ hmem => absurd hmem List.not_mem_nil⟩

theorem Owns.notStray (h : table.Owns) : ∀ found ∈ table.faults, NotStray found := by
  unfold faults
  simp only [List.forall_mem_append, List.forall_mem_cons, List.forall_mem_flatMap,
    Option.mem_toList]
  exact ⟨⟨⟨⟨⟨notStray_ifMissing, notStray_ifEmpty, notStray_ifNoColumns,
    fun _ hmem => absurd hmem List.not_mem_nil⟩, notStray_columnFaults h.columns []⟩,
    fun key hkey => notStray_keyFaults (h.primaryKey key hkey)⟩,
    fun key hkey => notStray_foreignKeyFaults (h.foreignKeys key hkey)⟩,
    fun key hkey => notStray_keyFaults (h.uniqueConstraints key hkey)⟩

end Table

/-- Only a table has parts that could have another parent. -/
theorem Operation.notStray_of_owns {operation : Operation}
    (h : ∀ table, operation = .createTable table → table.Owns) :
    ∀ found ∈ operation.faults, NotStray found := by
  cases operation with
  | createTable table => exact (h table rfl).notStray
  | addColumn column | alterColumn column =>
    exact List.forall_mem_cons.mpr ⟨notStray_ifMissing, List.forall_mem_cons.mpr
      ⟨notStray_ifEmpty, column.notStray_definitionFaults _⟩⟩
  | _ =>
    unfold faults
    simp only [List.forall_mem_cons, notStray_ifMissing, notStray_ifEmpty, notStray_ifNoColumns,
      true_and]
    exact fun _ hmem => absurd hmem List.not_mem_nil

/-! ### Every step of a run -/

section Step

variable {recorded : List Operation} {index : Nat} {table : Table}

theorem extends_apply {operation : Operation} (h : operation = .createTable table)
    (change : Change) :
    ∃ further after, change.apply operation = .createTable after ∧ table.Extends further after := by
  subst h
  cases change with
  | set setter => exact ⟨[], table, foldl_apply_createTable [.set setter] table, .refl table⟩
  | declare step => exact ⟨[step], _, rfl, (Table.Extends.refl table).step step⟩

theorem extends_modifyLast (h : recorded[index]? = some (.createTable table)) (change : Change) :
    ∃ further after, (modifyLast change.apply recorded)[index]? = some (.createTable after) ∧
      table.Extends further after := by
  obtain rfl | ⟨earlier, last, rfl⟩ := List.eq_nil_or_concat recorded
  · cases h
  rw [List.concat_eq_append] at h ⊢
  rw [modifyLast_concat]
  by_cases hindex : index < earlier.length
  · rw [List.getElem?_append_left hindex] at h ⊢
    exact ⟨[], table, h, .refl table⟩
  · rw [List.getElem?_append_right (Nat.le_of_not_lt hindex)] at h ⊢
    cases hlast : index - earlier.length with
    | zero =>
      rw [hlast] at h
      obtain ⟨further, after, hafter, hextends⟩ := extends_apply (Option.some.inj h) change
      exact ⟨further, after, congrArg some hafter, hextends⟩
    | succ =>
      rw [hlast] at h
      cases h

/-- A step changes at most the operation recorded last, and of a table it takes nothing away. -/
theorem exists_extends_recordStep (h : recorded[index]? = some (.createTable table))
    (step : Recording) :
    ∃ further after, (recordStep recorded step)[index]? = some (.createTable after) ∧
      table.Extends further after := by
  cases step with
  | entry entry =>
    obtain ⟨hlt, -⟩ := List.getElem?_eq_some_iff.mp h
    refine ⟨[], table, ?_, .refl table⟩
    exact (List.getElem?_append_left hlt).trans h
  | set setter => exact extends_modifyLast h (.set setter)
  | declare step => exact extends_modifyLast h (.declare step)

end Step

/-- After every step of every run of calls each part of a table names the table and its schema. A
table is what the steps behind its call declare, one part behind the other, where a constraint has
the names of the columns that it was given; a further step only adds to the parts. So no operation
that is recorded has a part of another parent. -/
theorem recorded_tables_own_parts (calls : List BuilderCall) :
    (∀ (index : Nat) (table : Table), (recordCalls calls)[index]? = some (.createTable table) →
      table.Owns ∧ ∃ call name, calls[index]? = some call ∧ call.entry = .createTable name ∧
        Table.Extends { name } call.tableSteps table) ∧
    (∀ (step : Recording) (index : Nat) (table : Table),
      (recordCalls calls)[index]? = some (.createTable table) →
      ∃ further after, (recordStep (recordCalls calls) step)[index]? = some (.createTable after) ∧
        table.Extends further after) ∧
    ∀ kind field table,
      fault? (recordCalls calls) ≠ some (.parentMismatch kind field table) := by
  have hdeclared (index : Nat) (table : Table)
      (htable : (recordCalls calls)[index]? = some (.createTable table)) :
      table.Owns ∧ ∃ call name, calls[index]? = some call ∧ call.entry = .createTable name ∧
        Table.Extends { name } call.tableSteps table := by
    rw [recordCalls_eq, List.getElem?_map] at htable
    obtain ⟨call, hcall, hoperation⟩ := Option.map_eq_some_iff.mp htable
    obtain ⟨name, hentry, rfl⟩ := BuilderCall.of_operation_eq_createTable hoperation
    exact ⟨Table.owns_foldl (Table.owns_empty name none) _, call, name, hcall, hentry,
      Table.extends_foldl _ _⟩
  refine ⟨hdeclared, fun step index table htable => exists_extends_recordStep htable step, ?_⟩
  intro kind field table hfault
  obtain ⟨operation, hmem, hfound⟩ := List.exists_of_findSome?_eq_some hfault
  obtain ⟨found, hfound', heq⟩ := List.exists_of_findSome?_eq_some hfound
  refine Operation.notStray_of_owns (fun table htable => ?_) found hfound' kind field _ heq
  obtain ⟨index, hindex⟩ := List.getElem?_of_mem hmem
  exact (hdeclared index table (htable ▸ hindex)).1

end MigrationScript
