import MigrationScript.Proofs.Operation.Writable
import MigrationScript.Script.Generate

namespace MigrationScript

open Fault

namespace Operation

/-! ### Fields -/

/-- The texts that an operation has to have, behind the names of their fields. -/
def texts : Operation → List (String × String)
  | .addColumn column | .alterColumn column =>
    [("name", column.name), ("table", column.table), ("type", column.type)]
  | .addForeignKey key =>
    [("name", key.name), ("table", key.table), ("referencedTable", key.referencedTable)]
  | .addPrimaryKey key | .addUniqueConstraint key => [("name", key.name), ("table", key.table)]
  | .createIndex index => [("name", index.name), ("table", index.table)]
  | .alterSequence change => [("name", change.name)]
  | .createSequence sequence => [("name", sequence.name)]
  | .createSchema schema | .dropSchema schema => [("name", schema.name)]
  | .createTable table => [("name", table.name)]
  | .dropColumn member | .dropForeignKey member | .dropIndex member | .dropPrimaryKey member
  | .dropUniqueConstraint member => [("name", member.name), ("table", member.table)]
  | .dropSequence object | .dropTable object => [("name", object.name)]
  | .renameColumn rename | .renameIndex rename =>
    [("name", rename.name), ("table", rename.table), ("newName", rename.newName)]
  | .renameSequence rename | .renameTable rename => [("name", rename.name)]
  | .restartSequence restart => [("name", restart.name)]
  | .sql statement => [("sql", statement.sql)]

/-- The names that an operation may lack, behind those of their fields. -/
def optionalTexts : Operation → List (String × Option String)
  | .addColumn column | .alterColumn column => [("schema", column.schema)]
  | .addForeignKey key => [("schema", key.schema), ("referencedSchema", key.referencedSchema)]
  | .addPrimaryKey key | .addUniqueConstraint key => [("schema", key.schema)]
  | .createIndex index => [("schema", index.schema)]
  | .alterSequence change => [("schema", change.schema)]
  | .createSequence sequence => [("schema", sequence.schema), ("type", sequence.type)]
  | .createSchema _ | .dropSchema _ | .sql _ => []
  | .createTable table => [("schema", table.schema)]
  | .dropColumn member | .dropForeignKey member | .dropIndex member | .dropPrimaryKey member
  | .dropUniqueConstraint member => [("schema", member.schema)]
  | .dropSequence object | .dropTable object => [("schema", object.schema)]
  | .renameColumn rename | .renameIndex rename => [("schema", rename.schema)]
  | .renameSequence rename | .renameTable rename =>
    [("schema", rename.schema), ("newName", rename.newName), ("newSchema", rename.newSchema)]
  | .restartSequence restart => [("schema", restart.schema)]

/-- The columns that an operation selects, or those that a table declares. -/
def columnNames? : Operation → Option (List String)
  | .addForeignKey key => some key.columns
  | .addPrimaryKey key | .addUniqueConstraint key => some key.columns
  | .createIndex index => some index.columns
  | .createTable table => some (table.columns.map (·.name))
  | _ => none

/-- The column that an operation defines. -/
def definition? : Operation → Option Column
  | .addColumn column | .alterColumn column => some column
  | _ => none

/-- The table and the schema that a part of a table names. -/
def owner? : Operation → Option (String × Option String)
  | .addColumn column => some (column.table, column.schema)
  | .addForeignKey key => some (key.table, key.schema)
  | .addPrimaryKey key | .addUniqueConstraint key => some (key.table, key.schema)
  | _ => none

end Operation

/-- The parts of a table as operations of their own. -/
def Table.parts (table : Table) : List Operation :=
  table.columns.map .addColumn ++ table.primaryKey.toList.map .addPrimaryKey ++
    table.foreignKeys.map .addForeignKey ++ table.uniqueConstraints.map .addUniqueConstraint

namespace Operation

/-! ### Conditions -/

/-- What an operation needs: its texts are there, names that may be missing are not empty, it has
columns if it is on columns, a column has one default, and the parts of a table are complete. -/
structure Complete (operation : Operation) : Prop where
  texts : ∀ entry ∈ operation.texts, entry.2 ≠ ""
  optionalTexts : ∀ entry ∈ operation.optionalTexts, entry.2 ≠ some ""
  columns : ∀ columns ∈ operation.columnNames?, columns ≠ []
  oneDefault : ∀ column ∈ operation.definition?, column.OneDefault
  table : ∀ table, operation = .createTable table → table.Complete

/-- The fault names a condition that the operation violates, and what violates it. -/
inductive Violates : Operation → Fault → Prop
  | text {operation : Operation} {field : String} : (field, "") ∈ operation.texts →
    Violates operation (.missingField operation.kind field)
  | optionalText {operation : Operation} {field : String} :
    (field, some "") ∈ operation.optionalTexts →
    Violates operation (.emptyField operation.kind field)
  | columns {operation : Operation} : operation.columnNames? = some [] →
    Violates operation (.missingField operation.kind "columns")
  | oneDefault {operation : Operation} {column : Column} : operation.definition? = some column →
    ¬column.OneDefault → Violates operation (.conflictingDefault operation.kind column.name)
  | part {table : Table} {part : Operation} {fault : Fault} : part ∈ table.parts →
    Violates part fault → Violates (.createTable table) fault
  | strayTable {table : Table} {part : Operation} {name : String} {schema : Option String} :
    part ∈ table.parts → part.owner? = some (name, schema) → name ≠ table.name →
    Violates (.createTable table) (.parentMismatch part.kind "table" table.name)
  | straySchema {table : Table} {part : Operation} {name : String} {schema : Option String} :
    part ∈ table.parts → part.owner? = some (name, schema) → schema ≠ table.schema →
    Violates (.createTable table) (.parentMismatch part.kind "schema" table.name)
  | undeclared {table : Table} {part : Operation} {selected : List String} {name : String} :
    part ∈ table.parts → part.columnNames? = some selected → name ∈ selected →
    (∀ column ∈ table.columns, column.name ≠ name) →
    Violates (.createTable table) (.unknownColumn part.kind table.name name)
  | collision {table : Table} {before between behind : List Column} {first second : Column} :
    table.columns = before ++ first :: between ++ second :: behind →
    Identifier.derive first.name = Identifier.derive second.name →
    Violates (.createTable table) (.identifierCollision table.name
      (Identifier.derive second.name) first.name second.name)

/-- What is looked for in an operation, but for the parts of a table, told by its fields. -/
def checks (operation : Operation) : List (Option Fault) :=
  operation.texts.map (fun entry => ifMissing operation.kind entry.1 entry.2) ++
    operation.optionalTexts.map (fun entry => ifEmpty operation.kind entry.1 entry.2) ++
    operation.columnNames?.toList.map (ifNoColumns operation.kind) ++
    operation.definition?.toList.map fun column =>
      if column.defaultValue.isSome && column.defaultExpression.isSome then
        some (.conflictingDefault operation.kind column.name)
      else none

variable {operation : Operation} {fault : Fault}

theorem subset_checks (h : operation.kind ≠ .createTable) :
    operation.faults ⊆ operation.checks ∧ operation.checks ⊆ operation.faults := by
  cases operation with
  | createTable => exact absurd rfl h
  | _ =>
    simp [faults, checks, texts, optionalTexts, columnNames?, definition?,
      Column.definitionFaults]

theorem checks_iff :
    (∀ fault ∈ operation.checks, fault = none) ↔
      (∀ entry ∈ operation.texts, entry.2 ≠ "") ∧
      (∀ entry ∈ operation.optionalTexts, entry.2 ≠ some "") ∧
      (∀ columns ∈ operation.columnNames?, columns ≠ []) ∧
      ∀ column ∈ operation.definition?, column.OneDefault := by
  simp only [checks, List.forall_mem_append, List.forall_mem_map, ifMissing_eq_none_iff,
    ifEmpty_eq_none_iff, ifNoColumns_eq_none_iff, List.isEmpty_eq_false_iff, ite_eq_none_iff,
    Bool.not_eq_true, Column.OneDefault, Option.mem_toList, Option.mem_def, and_assoc]

theorem violates_of_checks (h : some fault ∈ operation.checks) : operation.Violates fault := by
  simp only [checks, List.mem_append, List.mem_map, Option.mem_toList] at h
  obtain ((⟨⟨field, text⟩, hentry, h⟩ | ⟨⟨field, text⟩, hentry, h⟩) | ⟨columns, hcolumns, h⟩) |
    ⟨column, hcolumn, h⟩ := h
  · obtain ⟨rfl, ⟨⟩⟩ := Option.ite_none_right_eq_some.mp h
    exact .text hentry
  · obtain ⟨rfl, ⟨⟩⟩ := Option.ite_none_right_eq_some.mp h
    exact .optionalText hentry
  · obtain ⟨hnone, ⟨⟩⟩ := Option.ite_none_right_eq_some.mp h
    exact .columns (List.isEmpty_iff.mp hnone ▸ hcolumns)
  · obtain ⟨hboth, ⟨⟩⟩ := Option.ite_none_right_eq_some.mp h
    exact .oneDefault hcolumn fun hone => absurd (hone.symm.trans hboth) Bool.false_ne_true

theorem complete_iff :
    operation.Complete ↔ (∀ fault ∈ operation.checks, fault = none) ∧
      ∀ table, operation = .createTable table → table.Complete := by
  rw [checks_iff]
  exact ⟨fun h => ⟨⟨h.texts, h.optionalTexts, h.columns, h.oneDefault⟩, h.table⟩,
    fun ⟨⟨htexts, hoptional, hcolumns, hdefault⟩, htable⟩ =>
      ⟨htexts, hoptional, hcolumns, hdefault, htable⟩⟩

/-- An operation has no fault exactly if it meets the conditions. -/
theorem fault?_eq_none_iff_complete : operation.fault? = none ↔ operation.Complete := by
  rw [fault?_eq_none_iff, complete_iff]
  by_cases hkind : operation.kind = .createTable
  · cases operation with
    | createTable table =>
      rw [show (createTable table).faults = table.faults from rfl, Table.faults_iff, checks_iff]
      simp [texts, optionalTexts, columnNames?, definition?, and_assoc]
    | _ => cases hkind
  · obtain ⟨hfaults, hchecks⟩ := subset_checks hkind
    have htable : ∀ table, operation = .createTable table → table.Complete := by
      rintro table rfl
      exact absurd rfl hkind
    exact ⟨fun h => ⟨fun fault hmem => h fault (hchecks hmem), htable⟩,
      fun h fault hmem => h.1 fault (hfaults hmem)⟩

end Operation

/-! ### Faults of tables -/

namespace Table

variable {table : Table} {part : Operation} {fault : Fault}

theorem kind_ne_of_owner? {owner : String × Option String} (h : part.owner? = some owner) :
    part.kind ≠ .createTable := by
  rintro hkind
  cases part with
  | createTable => cases h
  | _ => cases hkind

/-- A part that names another table or schema, has a fault itself or selects a column that there is
not is a fault of the table. -/
theorem violates_of_part (hpart : part ∈ table.parts) {name : String} {schema : Option String}
    (howner : part.owner? = some (name, schema))
    (h : some fault ∈ table.ifStray part.kind name schema ∨ some fault ∈ part.faults ∨
      ∃ selected, part.columnNames? = some selected ∧
        some fault = table.ifUndeclared part.kind selected) :
    (Operation.createTable table).Violates fault := by
  obtain hstray | hfault | ⟨selected, hselected, hundeclared⟩ := h
  · simp only [ifStray, List.mem_cons, List.not_mem_nil, or_false] at hstray
    obtain hname | hschema := hstray
    · obtain ⟨hne, ⟨⟩⟩ := Option.ite_none_right_eq_some.mp hname.symm
      exact .strayTable hpart howner hne
    · obtain ⟨hne, ⟨⟩⟩ := Option.ite_none_right_eq_some.mp hschema.symm
      exact .straySchema hpart howner hne
  · have hcheck := (Operation.subset_checks (kind_ne_of_owner? howner)).1 hfault
    exact .part hpart (Operation.violates_of_checks hcheck)
  · obtain ⟨name, hfound, rfl⟩ := Option.map_eq_some_iff.mp hundeclared.symm
    have hnot := List.find?_some hfound
    rw [Bool.not_eq_true', List.any_eq_false] at hnot
    refine .undeclared hpart hselected (List.mem_of_find?_eq_some hfound) fun column hcolumn heq => ?_
    exact hnot column hcolumn (beq_iff_eq.mpr heq)

theorem violates_of_columnFaults {earlier columns : List Column}
    (hcolumns : table.columns = earlier ++ columns)
    (h : some fault ∈ table.columnFaults earlier columns) :
    (Operation.createTable table).Violates fault := by
  induction columns generalizing earlier with
  | nil => cases h
  | cons column rest ih =>
    have hpart : Operation.addColumn column ∈ table.parts := by
      simp [parts, hcolumns]
    unfold columnFaults at h
    simp only [List.mem_append, List.mem_cons] at h
    obtain (hstray | hdefinition) | hcollision | hrest := h
    · exact violates_of_part hpart rfl (.inl hstray)
    · have hfault : some fault ∈ (Operation.addColumn column).faults :=
        List.mem_cons_of_mem _ (List.mem_cons_of_mem _ hdefinition)
      exact violates_of_part hpart rfl (.inr (.inl hfault))
    · obtain ⟨first, hfound, rfl⟩ := Option.map_eq_some_iff.mp hcollision.symm
      have hsame := List.find?_some hfound
      obtain ⟨before, between, rfl⟩ := List.append_of_mem (List.mem_of_find?_eq_some hfound)
      exact .collision hcolumns (beq_iff_eq.mp hsame)
    · refine ih ?_ hrest
      rw [hcolumns, List.append_assoc]
      rfl

theorem violates_of_keyFaults {key : Key} (hpart : part ∈ table.parts)
    (hkey : part = .addPrimaryKey key ∨ part = .addUniqueConstraint key)
    (h : some fault ∈ table.keyFaults part.kind key) :
    (Operation.createTable table).Violates fault := by
  have howner : part.owner? = some (key.table, key.schema) := by
    obtain rfl | rfl := hkey <;> rfl
  have hselected : part.columnNames? = some key.columns := by
    obtain rfl | rfl := hkey <;> rfl
  have hfaults : part.faults = [ifMissing part.kind "name" key.name,
      ifEmpty part.kind "schema" key.schema, ifMissing part.kind "table" key.table,
      ifNoColumns part.kind key.columns] := by
    obtain rfl | rfl := hkey <;> rfl
  refine violates_of_part hpart howner ?_
  rw [hfaults]
  simp only [keyFaults, List.mem_append, List.mem_cons, List.not_mem_nil, or_false] at h
  obtain hstray | hname | hcolumns | hundeclared := h
  · exact .inl hstray
  · exact .inr (.inl (List.mem_of_getElem? (i := 0) (congrArg some hname.symm)))
  · exact .inr (.inl (List.mem_of_getElem? (i := 3) (congrArg some hcolumns.symm)))
  · exact .inr (.inr ⟨_, hselected, hundeclared⟩)

theorem violates_of_foreignKeyFaults {key : ForeignKey} (hkey : key ∈ table.foreignKeys)
    (h : some fault ∈ table.foreignKeyFaults key) :
    (Operation.createTable table).Violates fault := by
  have hpart : Operation.addForeignKey key ∈ table.parts := by
    simp [parts, hkey]
  refine violates_of_part hpart rfl ?_
  simp only [foreignKeyFaults, List.mem_append, List.mem_cons, List.not_mem_nil, or_false] at h
  obtain hstray | hname | hcolumns | hundeclared | hschema | htable := h
  · exact .inl hstray
  · exact .inr (.inl (List.mem_of_getElem? (i := 0) (congrArg some hname.symm)))
  · exact .inr (.inl (List.mem_of_getElem? (i := 3) (congrArg some hcolumns.symm)))
  · exact .inr (.inr ⟨_, rfl, hundeclared⟩)
  · exact .inr (.inl (List.mem_of_getElem? (i := 4) (congrArg some hschema.symm)))
  · exact .inr (.inl (List.mem_of_getElem? (i := 5) (congrArg some htable.symm)))

theorem violates_of_faults (h : some fault ∈ table.faults) :
    (Operation.createTable table).Violates fault := by
  have hchecks : ∀ check ∈ [ifMissing .createTable "name" table.name,
      ifEmpty .createTable "schema" table.schema, ifNoColumns .createTable table.columns],
      check ∈ (Operation.createTable table).checks := by
    simp [Operation.checks, Operation.texts, Operation.optionalTexts, Operation.columnNames?,
      Operation.kind, ifNoColumns]
  unfold faults at h
  simp only [List.mem_append, List.mem_flatMap, Option.mem_toList] at h
  obtain (((hown | hcolumns) | ⟨key, hkey, hfault⟩) | ⟨key, hkey, hfault⟩) | ⟨key, hkey, hfault⟩ := h
  · exact Operation.violates_of_checks (hchecks _ hown)
  · exact violates_of_columnFaults rfl hcolumns
  · have hpart : Operation.addPrimaryKey key ∈ table.parts := by
      simp [parts, hkey]
    exact violates_of_keyFaults hpart (.inl rfl) hfault
  · exact violates_of_foreignKeyFaults hkey hfault
  · have hpart : Operation.addUniqueConstraint key ∈ table.parts := by
      simp [parts, hkey]
    exact violates_of_keyFaults hpart (.inr rfl) hfault

end Table

namespace Operation

variable {operation : Operation} {fault : Fault}

theorem violates_of_fault? (h : operation.fault? = some fault) : operation.Violates fault := by
  obtain ⟨found, hmem, hfound⟩ := List.exists_of_findSome?_eq_some h
  have hfault : some fault ∈ operation.faults := hfound ▸ hmem
  by_cases hkind : operation.kind = .createTable
  · cases operation with
    | createTable table => exact Table.violates_of_faults hfault
    | _ => cases hkind
  · exact violates_of_checks ((subset_checks hkind).1 hfault)

end Operation

/-! ### Violations exclude completeness -/

namespace Table

variable {table : Table}

theorem forall_mem_parts_iff {holds : Operation → Prop} :
    (∀ part ∈ table.parts, holds part) ↔
      (∀ column ∈ table.columns, holds (.addColumn column)) ∧
      (∀ key ∈ table.primaryKey, holds (.addPrimaryKey key)) ∧
      (∀ key ∈ table.foreignKeys, holds (.addForeignKey key)) ∧
      ∀ key ∈ table.uniqueConstraints, holds (.addUniqueConstraint key) := by
  simp only [parts, List.forall_mem_append, List.forall_mem_map, Option.mem_toList,
    Option.mem_def, and_assoc]

theorem Owns.owner?_part (h : table.Owns) :
    ∀ part ∈ table.parts, part.owner? = some (table.name, table.schema) := by
  have howner {name : String} {schema : Option String}
      (howns : name = table.name ∧ schema = table.schema) :
      some (name, schema) = some (table.name, table.schema) := by
    rw [howns.1, howns.2]
  exact forall_mem_parts_iff.mpr ⟨fun column hcolumn => howner (h.columns column hcolumn),
    fun key hkey => howner (h.primaryKey key hkey), fun key hkey => howner (h.foreignKeys key hkey),
    fun key hkey => howner (h.uniqueConstraints key hkey)⟩

/-- The parts of a complete table are complete operations. -/
theorem complete_part (h : (Operation.createTable table).Complete) :
    ∀ part ∈ table.parts, part.Complete := by
  have hname : table.name ≠ "" := h.texts _ (List.mem_singleton_self _)
  have hschema : table.schema ≠ some "" := h.optionalTexts _ (List.mem_singleton_self _)
  have htable := h.table table rfl
  obtain ⟨hprimary, hunique⟩ := List.forall_mem_append.mp htable.keys
  have hkey (key : Key) (howns : key.table = table.name ∧ key.schema = table.schema)
      (hcomplete : key.name ≠ "" ∧ key.columns ≠ [] ∧ table.Declares key.columns) :
      (Operation.addPrimaryKey key).Complete ∧ (Operation.addUniqueConstraint key).Complete := by
    constructor <;> constructor <;>
      simp [Operation.texts, Operation.optionalTexts, Operation.columnNames?,
        Operation.definition?, howns.1, howns.2, hname, hschema, hcomplete.1, hcomplete.2.1]
  refine forall_mem_parts_iff.mpr ⟨fun column hcolumn => ?_, fun key hmem => ?_, fun key hmem => ?_,
    fun key hmem => ?_⟩
  · have howns := htable.owns.columns column hcolumn
    have htexts := htable.columnTexts column hcolumn
    constructor <;>
      simp [Operation.texts, Operation.optionalTexts, Operation.columnNames?,
        Operation.definition?, howns.1, howns.2, hname, hschema, htexts.1, htexts.2,
        htable.oneDefault column hcolumn]
  · exact (hkey key (htable.owns.primaryKey key hmem)
      (hprimary key (Option.mem_toList.mpr hmem))).1
  · have howns := htable.owns.foreignKeys key hmem
    obtain ⟨hkeyName, hcolumns, -, hreferencedSchema, hreferencedTable⟩ :=
      htable.foreignKeys key hmem
    constructor <;>
      simp [Operation.texts, Operation.optionalTexts, Operation.columnNames?,
        Operation.definition?, howns.1, howns.2, hname, hschema, hkeyName, hcolumns,
        hreferencedSchema, hreferencedTable]
  · exact (hkey key (htable.owns.uniqueConstraints key hmem) (hunique key hmem)).2

theorem Complete.declares_part (h : table.Complete) :
    ∀ part ∈ table.parts, ∀ selected ∈ part.columnNames?, table.Declares selected := by
  have hwritable := h.writable
  refine forall_mem_parts_iff.mpr ⟨fun column _ => nofun, fun key hkey => ?_, fun key hkey => ?_,
    fun key hkey => ?_⟩
  · rintro _ ⟨⟩
    exact hwritable.primaryKey key hkey
  · rintro _ ⟨⟩
    exact hwritable.foreignKeys key hkey
  · rintro _ ⟨⟩
    exact hwritable.uniqueConstraints key hkey

end Table

namespace Operation

variable {operation : Operation} {fault : Fault}

theorem Violates.not_complete (h : operation.Violates fault) : ¬operation.Complete := by
  induction h with
  | text hmem => exact fun hcomplete => hcomplete.texts _ hmem rfl
  | optionalText hmem => exact fun hcomplete => hcomplete.optionalTexts _ hmem rfl
  | columns hcolumns => exact fun hcomplete => hcomplete.columns _ hcolumns rfl
  | oneDefault hcolumn hboth => exact fun hcomplete => hboth (hcomplete.oneDefault _ hcolumn)
  | part hpart _ ih => exact fun hcomplete => ih (Table.complete_part hcomplete _ hpart)
  | strayTable hpart howner hne =>
    intro hcomplete
    have hsame := howner.symm.trans ((hcomplete.table _ rfl).owns.owner?_part _ hpart)
    cases hsame
    exact hne rfl
  | straySchema hpart howner hne =>
    intro hcomplete
    have hsame := howner.symm.trans ((hcomplete.table _ rfl).owns.owner?_part _ hpart)
    cases hsame
    exact hne rfl
  | undeclared hpart hselected hname hnone =>
    intro hcomplete
    obtain ⟨column, hcolumn, heq⟩ :=
      (hcomplete.table _ rfl).declares_part _ hpart _ hselected _ hname
    exact hnone column hcolumn heq
  | collision hcolumns hsame =>
    intro hcomplete
    have hnodup := (hcomplete.table _ rfl).identifiers
    rw [hcolumns, List.map_append, List.nodup_append] at hnodup
    exact hnodup.2.2 _ (List.mem_map_of_mem (List.mem_append_right _ List.mem_cons_self)) _
      List.mem_cons_self hsame

end Operation

/-! ### Writing -/

section Generate

variable {accepts : String → Bool} {layout : Layout} {builder : String}
  {operations : List Operation}

theorem fault?_eq_some_iff {fault : Fault} :
    fault? operations = some fault ↔
      ∃ before failing behind, operations = before ++ failing :: behind ∧
        (∀ operation ∈ before, operation.Complete) ∧ failing.fault? = some fault := by
  rw [fault?, List.findSome?_eq_some_iff]
  simp only [Operation.fault?_eq_none_iff_complete]
  exact ⟨fun ⟨before, failing, behind, hoperations, hfault, hbefore⟩ =>
      ⟨before, failing, behind, hoperations, hbefore, hfault⟩,
    fun ⟨before, failing, behind, hoperations, hbefore, hfault⟩ =>
      ⟨before, failing, behind, hoperations, hfault, hbefore⟩⟩

theorem fault?_eq_none_iff_complete :
    fault? operations = none ↔ ∀ operation ∈ operations, operation.Complete := by
  rw [fault?_eq_none_iff]
  simp only [Operation.fault?_eq_none_iff_complete]

theorem generateTo_of_invalid (hbuilder : Identifier.isValid builder = false) :
    generateTo accepts layout builder operations = .error (.invalidBuilderName builder) := by
  rw [generateTo, generate, generateError?, if_neg (Bool.eq_false_iff.mp hbuilder)]

theorem generateTo_of_fault {fault : Fault} (hbuilder : Identifier.isValid builder = true)
    (hfault : fault? operations = some fault) :
    generateTo accepts layout builder operations = .error (.fault fault) := by
  rw [generateTo, generate, generateError?, if_pos hbuilder, hfault]
  rfl

/-- With a valid name and without a fault, only the sink decides. -/
theorem generateTo_of_complete (hbuilder : Identifier.isValid builder = true)
    (hcomplete : ∀ operation ∈ operations, operation.Complete) :
    generateTo accepts layout builder operations =
      if accepts (.ofList (render layout builder operations)) then
        .ok (.ofList (render layout builder operations))
      else .error .refused := by
  rw [generateTo, generate, generateError?, if_pos hbuilder,
    fault?_eq_none_iff_complete.mpr hcomplete]
  rfl

theorem generateTo_eq_ok_iff {text : String} :
    generateTo accepts layout builder operations = .ok text ↔
      Identifier.isValid builder = true ∧ (∀ operation ∈ operations, operation.Complete) ∧
        text = .ofList (render layout builder operations) ∧ accepts text = true := by
  constructor
  · intro h
    cases hbuilder : Identifier.isValid builder with
    | false => cases (generateTo_of_invalid hbuilder).symm.trans h
    | true =>
      cases hfault : fault? operations with
      | some fault => cases (generateTo_of_fault hbuilder hfault).symm.trans h
      | none =>
        have hcomplete := fault?_eq_none_iff_complete.mp hfault
        rw [generateTo_of_complete hbuilder hcomplete] at h
        split at h
        · rename_i haccepts
          cases h
          exact ⟨rfl, hcomplete, rfl, haccepts⟩
        · cases h
  · rintro ⟨hbuilder, hcomplete, rfl, haccepts⟩
    rw [generateTo_of_complete hbuilder hcomplete, if_pos haccepts]

theorem generateTo_eq_error_iff {error : GenerateError} :
    generateTo accepts layout builder operations = .error error ↔
      (Identifier.isValid builder = false ∧ error = .invalidBuilderName builder) ∨
      (Identifier.isValid builder = true ∧ ∃ before failing behind fault,
        operations = before ++ failing :: behind ∧ (∀ operation ∈ before, operation.Complete) ∧
          failing.fault? = some fault ∧ error = .fault fault) ∨
      (Identifier.isValid builder = true ∧ (∀ operation ∈ operations, operation.Complete) ∧
        accepts (.ofList (render layout builder operations)) = false ∧ error = .refused) := by
  constructor
  · intro h
    cases hbuilder : Identifier.isValid builder with
    | false =>
      cases (generateTo_of_invalid hbuilder).symm.trans h
      exact .inl ⟨rfl, rfl⟩
    | true =>
      cases hfault : fault? operations with
      | some fault =>
        cases (generateTo_of_fault hbuilder hfault).symm.trans h
        obtain ⟨before, failing, behind, hoperations, hbefore, hfailing⟩ :=
          fault?_eq_some_iff.mp hfault
        exact .inr (.inl ⟨rfl, before, failing, behind, fault, hoperations, hbefore, hfailing, rfl⟩)
      | none =>
        have hcomplete := fault?_eq_none_iff_complete.mp hfault
        rw [generateTo_of_complete hbuilder hcomplete] at h
        split at h
        · cases h
        · rename_i hrefused
          cases h
          exact .inr (.inr ⟨rfl, hcomplete, Bool.eq_false_iff.mpr hrefused, rfl⟩)
  · rintro (⟨hbuilder, rfl⟩ | ⟨hbuilder, before, failing, behind, fault, hoperations, hbefore,
      hfailing, rfl⟩ | ⟨hbuilder, hcomplete, hrefused, rfl⟩)
    · exact generateTo_of_invalid hbuilder
    · exact generateTo_of_fault hbuilder
        (fault?_eq_some_iff.mpr ⟨before, failing, behind, hoperations, hbefore, hfailing⟩)
    · rw [generateTo_of_complete hbuilder hcomplete, if_neg (Bool.eq_false_iff.mp hrefused)]

end Generate

/-- An operation has no fault exactly if its texts are there, the names that it may lack are not
empty, it has columns where it is on columns, a column has one default, and the parts of a table name
it and its schema, are complete and tell their columns by identifiers; a fault names a condition that
is violated and what violates it. Whatever the name of the builder, the operations and the sink, a
script is written exactly if the name is valid, no operation violates a condition and the sink takes
the text; otherwise nothing is, and the error is that of the name, of the first operation that
violates a condition, or of the sink. -/
theorem preconditions_exact (accepts : String → Bool) (layout : Layout) (builder : String)
    (operations : List Operation) :
    (∀ operation : Operation, (operation.fault? = none ↔ operation.Complete) ∧
      (∀ fault, operation.fault? = some fault → operation.Violates fault) ∧
      ∀ fault, operation.Violates fault → ¬operation.Complete) ∧
    (∀ text, generateTo accepts layout builder operations = .ok text ↔
      Identifier.isValid builder = true ∧ (∀ operation ∈ operations, operation.Complete) ∧
        text = .ofList (render layout builder operations) ∧ accepts text = true) ∧
    ∀ error, generateTo accepts layout builder operations = .error error ↔
      (Identifier.isValid builder = false ∧ error = .invalidBuilderName builder) ∨
      (Identifier.isValid builder = true ∧ ∃ before failing behind fault,
        operations = before ++ failing :: behind ∧ (∀ operation ∈ before, operation.Complete) ∧
          failing.fault? = some fault ∧ error = .fault fault) ∨
      (Identifier.isValid builder = true ∧ (∀ operation ∈ operations, operation.Complete) ∧
        accepts (.ofList (render layout builder operations)) = false ∧ error = .refused) :=
  ⟨fun _ => ⟨Operation.fault?_eq_none_iff_complete, fun _ => Operation.violates_of_fault?,
      fun _ => Operation.Violates.not_complete⟩,
    fun _ => generateTo_eq_ok_iff, fun _ => generateTo_eq_error_iff⟩

end MigrationScript
