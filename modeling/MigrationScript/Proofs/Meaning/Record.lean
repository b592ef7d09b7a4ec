import MigrationScript.Meaning.Run
import MigrationScript.Proofs.Meaning.Owned

/-!
# What a statement records

A statement is run as a series of calls on the recorder, while its meaning is an operation that is
built at once. The two are compared field by field: the recorder starts with the usual values, and
the setters put in those that are given.
-/

namespace MigrationScript

namespace Run

variable {α : Type} {first second act : Run Unit} {before middle after operation : Operation}

/-- The steps take the operation that was recorded last to another one. -/
def Leads (act : Run Unit) (before after : Operation) : Prop :=
  ∀ recorded, act (recorded ++ [before]) = .ok () (recorded ++ [after])

/-- The act appends the operation that was made, or fails as making it does and changes nothing. -/
def Records (act : Run Unit) (made : Except ScriptError Operation) : Prop :=
  ∀ recorded, act recorded =
    match made with
    | .ok operation => .ok () (recorded ++ [operation])
    | .error error => .error error recorded

/-! ### Steps -/

theorem Leads.refl (operation : Operation) : Leads (pure ()) operation operation :=
  fun _ => rfl

theorem Leads.bind (hfirst : Leads first before middle) (hsecond : Leads second middle after) :
    Leads (first >>= fun _ => second) before after := by
  intro recorded
  change EStateM.bind first (fun _ => second) (recorded ++ [before]) = _
  rw [EStateM.bind, hfirst recorded]
  exact hsecond recorded

theorem leads_setField (setter : Setter) (operation : Operation) :
    Leads (setField setter) operation (operation.set setter) := by
  intro recorded
  change EStateM.Result.ok () (modifyLast (fun last : Operation => last.set setter) _) = _
  rw [modifyLast_concat]

theorem leads_declare (declaration : TableStep) (table : Table) :
    Leads (declare declaration) (.createTable table) (.createTable (table.step declaration)) := by
  intro recorded
  change EStateM.Result.ok () (modifyLast (fun last : Operation => last.declare declaration) _) = _
  rw [modifyLast_concat, Operation.declare]

/-- A field that takes its default unless it is given. -/
theorem leads_ifGiven {act : α → Run Unit} (state : Option α → Operation)
    (h : ∀ value, Leads (act value) (state none) (state (some value))) (value : Option α) :
    Leads (ifGiven value act) (state none) (state value) := by
  cases value with
  | none => exact .refl _
  | some value => exact h value

theorem leads_setSchema (state : Option String → Operation)
    (h : ∀ name, (state none).setSchema name = state (some name)) (schema : Option String) :
    Leads (setSchema schema) (state none) (state schema) := by
  refine leads_ifGiven state (fun name => ?_) schema
  have hset : (state none).set (.schema name) = state (some name) := h name
  exact hset ▸ leads_setField _ _

theorem leads_forM {act : α → Run Unit} (state : List α → Operation) {items : List α}
    (h : ∀ done item, item ∈ items → Leads (act item) (state done) (state (done ++ [item])))
    (done : List α) : Leads (items.forM act) (state done) (state (done ++ items)) := by
  induction items generalizing done with
  | nil =>
    rw [List.append_nil]
    exact .refl _
  | cons item rest ih =>
    have hitem := h done item List.mem_cons_self
    have hrest := ih (fun done item hmem => h done item (List.mem_cons_of_mem _ hmem))
      (done ++ [item])
    rw [List.append_assoc, List.singleton_append] at hrest
    exact hitem.bind hrest

theorem records_lift_bind {outcome : Except ScriptError α} {act : α → Run Unit}
    {made : α → Except ScriptError Operation}
    (h : ∀ value, outcome = .ok value → Records (act value) (made value)) :
    Records ((liftM outcome : Run α) >>= act) (outcome >>= made) := by
  cases outcome with
  | ok value => exact h value rfl
  | error error => exact fun _ => rfl

theorem records_enter (entry : Entry) : Records (enter entry) (.ok entry.operation) :=
  fun _ => rfl

theorem Leads.records {entry : Entry} (h : Leads act entry.operation operation) :
    Records (enter entry >>= fun _ => act) (.ok operation) :=
  fun recorded => h recorded

/-! ### Parts -/

theorem leads_setOptions {act : ColumnSetter → Run Unit} (state : Column → Operation)
    (h : ∀ column setter, Leads (act setter) (state column) (state (column.set setter)))
    (column : Column) :
    Leads (setOptions column act)
      (state { column with isNullable := false, defaultValue := none, defaultExpression := none })
      (state column) := by
  have hvalue := leads_ifGiven (fun defaultValue =>
    state { column with defaultValue, defaultExpression := none })
    (fun value => h _ (.defaultValue value)) column.defaultValue
  have hexpression := leads_ifGiven (fun defaultExpression =>
    state { column with defaultExpression })
    (fun expression => h _ (.defaultExpression expression)) column.defaultExpression
  exact (h _ (.nullable column.isNullable)).bind (hvalue.bind hexpression)

theorem leads_setReference {act : ReferenceSetter → Run Unit} (state : ForeignKey → Operation)
    (h : ∀ key setter, Leads (act setter) (state key) (state (key.set setter)))
    (key : ForeignKey) :
    Leads (setReference key act)
      (state { key with
        referencedSchema := none, referencedColumns := [], onUpdate := .noAction,
        onDelete := .noAction })
      (state key) := by
  have hschema := leads_ifGiven (fun referencedSchema =>
    state { key with
      referencedSchema, referencedColumns := [], onUpdate := .noAction, onDelete := .noAction })
    (fun name => h _ (.referencedSchema name)) key.referencedSchema
  have hcolumns := h { key with
    referencedColumns := [], onUpdate := .noAction, onDelete := .noAction }
    (.referencedColumns key.referencedColumns)
  have hupdate := h { key with onUpdate := .noAction, onDelete := .noAction }
    (.onUpdate key.onUpdate)
  have hdelete := h { key with onDelete := .noAction } (.onDelete key.onDelete)
  exact hschema.bind (hcolumns.bind (hupdate.bind hdelete))

/-! ### Tables -/

theorem leads_declareColumn {table : Table} {column : Column}
    (htable : column.table = table.name) (hschema : column.schema = table.schema) :
    Leads (declareColumn column) (.createTable table)
      (.createTable { table with columns := table.columns ++ [column] }) := by
  obtain ⟨name, schema, owner, type, isNullable, value, expression⟩ := column
  cases htable
  cases hschema
  have hset (last : Column) (setter : ColumnSetter) :
      Leads (declare (.setColumn setter))
        (.createTable { table with columns := table.columns ++ [last] })
        (.createTable { table with columns := table.columns ++ [last.set setter] }) := by
    have hlast := leads_declare (.setColumn setter)
      { table with columns := table.columns ++ [last] }
    rwa [Table.step, modifyLast_concat] at hlast
  exact (leads_declare (.column name type) table).bind (leads_setOptions _ hset _)

theorem map_name_handle (table : Table) (columns : List String) :
    (columns.map (handle table)).map ColumnHandle.name = columns := by
  rw [List.map_map]
  exact List.map_id columns

theorem leads_declareForeignKey (table : Table) {declared : Table} {key : ForeignKey}
    (htable : key.table = declared.name) (hschema : key.schema = declared.schema) :
    Leads (declareForeignKey table key) (.createTable declared)
      (.createTable { declared with foreignKeys := declared.foreignKeys ++ [key] }) := by
  obtain ⟨name, schema, owner, columns, referencedSchema, referencedTable, referencedColumns,
    onUpdate, onDelete⟩ := key
  cases htable
  cases hschema
  have hset (last : ForeignKey) (setter : ReferenceSetter) :
      Leads (declare (.setReference setter))
        (.createTable { declared with foreignKeys := declared.foreignKeys ++ [last] })
        (.createTable
          { declared with foreignKeys := declared.foreignKeys ++ [last.set setter] }) := by
    have hlast := leads_declare (.setReference setter)
      { declared with foreignKeys := declared.foreignKeys ++ [last] }
    rwa [Table.step, modifyLast_concat] at hlast
  have hkey := leads_declare
    (.foreignKey name (columns.map (handle table)) referencedTable) declared
  rw [Table.step, map_name_handle] at hkey
  exact hkey.bind (leads_setReference _ hset _)

/-- A key of the table is made again from its name and columns. -/
theorem newKey_handle {table declared : Table} {key : Key} (htable : key.table = declared.name)
    (hschema : key.schema = declared.schema) :
    declared.newKey key.name (key.columns.map (handle table)) = key := by
  rw [Table.newKey, map_name_handle, ← htable, ← hschema]

theorem leads_declareUnique (table : Table) {declared : Table} {key : Key}
    (htable : key.table = declared.name) (hschema : key.schema = declared.schema) :
    Leads (declare (.unique key.name (key.columns.map (handle table)))) (.createTable declared)
      (.createTable
        { declared with uniqueConstraints := declared.uniqueConstraints ++ [key] }) := by
  have hkey := leads_declare (.unique key.name (key.columns.map (handle table))) declared
  rwa [Table.step, newKey_handle htable hschema] at hkey

theorem leads_declarePrimaryKey (table declared : Table)
    (hown : ∀ key ∈ table.primaryKey, key.table = declared.name ∧ key.schema = declared.schema) :
    Leads (ifGiven table.primaryKey fun key =>
        declare (.primaryKey key.name (key.columns.map (handle table))))
      (.createTable { declared with primaryKey := none })
      (.createTable { declared with primaryKey := table.primaryKey }) := by
  cases hprimary : table.primaryKey with
  | none => exact .refl _
  | some key =>
    obtain ⟨htable, hschema⟩ := hown key hprimary
    have hkey := leads_declare (.primaryKey key.name (key.columns.map (handle table)))
      { declared with primaryKey := none }
    have hnew : Table.newKey { declared with primaryKey := none } key.name
        (key.columns.map (handle table)) = key := newKey_handle htable hschema
    rwa [Table.step, hnew] at hkey

theorem records_declareTable {table : Table} (hown : table.Owns) :
    Records (declareTable table) (.ok (.createTable table)) := by
  have hschema := leads_ifGiven (fun schema => .createTable { name := table.name, schema })
    (fun name => leads_declare (.schema name) { name := table.name }) table.schema
  have hcolumns := leads_forM
    (fun columns => .createTable { name := table.name, schema := table.schema, columns })
    (fun done column hmem => leads_declareColumn (hown.columns column hmem).1
      (hown.columns column hmem).2) []
  have hprimary := leads_declarePrimaryKey table
    { table with foreignKeys := [], uniqueConstraints := [] } hown.primaryKey
  have hforeign := leads_forM
    (fun foreignKeys => .createTable { table with foreignKeys, uniqueConstraints := [] })
    (fun done key hmem => leads_declareForeignKey table (hown.foreignKeys key hmem).1
      (hown.foreignKeys key hmem).2) []
  have hunique := leads_forM
    (fun uniqueConstraints => .createTable { table with uniqueConstraints })
    (fun done key hmem => leads_declareUnique table
      (hown.uniqueConstraints key hmem).1 (hown.uniqueConstraints key hmem).2) []
  exact (hschema.bind (hcolumns.bind (hprimary.bind (hforeign.bind hunique)))).records

end Run

namespace Bound

open Run

variable {bound : Bound} {schema : Option String}

/-! ### Methods -/

theorem ensures_toColumn : Ensures (bound.toColumn schema) (·.schema = schema) := by
  unfold toColumn
  iterate 3 refine .bind fun _ _ => ?_
  exact (ensures_columnOptions bound _).mono fun column h => h.2.1

theorem records_column {entry : String → String → String → Entry} {made : Column → Operation}
    (hentry : ∀ name table type, (entry name table type).operation = made { name, table, type })
    (hschema : ∀ column name,
      (made column).setSchema name = made { column with schema := some name })
    (hset : ∀ column setter, (made column).set (.column setter) = made (column.set setter)) :
    Records (bound.recordColumn schema entry) (return made (← bound.toColumn schema)) := by
  refine records_lift_bind fun column hcolumn => ?_
  cases ensures_toColumn _ hcolumn
  refine Leads.records ?_
  rw [hentry]
  refine (leads_setSchema (fun schema => made { column with
    schema, isNullable := false, defaultValue := none, defaultExpression := none })
    (fun name => hschema _ name) column.schema).bind ?_
  exact leads_setOptions made (fun column setter => hset column setter ▸ leads_setField _ _) column

theorem ensures_toForeignKey : Ensures (bound.toForeignKey schema) (·.schema = schema) := by
  unfold toForeignKey
  iterate 3 refine .bind fun _ _ => ?_
  exact (ensures_reference bound _).mono fun key h => h.2.1

theorem records_foreignKey :
    Records (bound.recordForeignKey schema)
      (return .addForeignKey (← bound.toForeignKey schema)) := by
  refine records_lift_bind fun key hkey => ?_
  cases ensures_toForeignKey _ hkey
  refine Leads.records ?_
  refine (leads_setSchema (fun schema => .addForeignKey { key with
    schema, referencedSchema := none, referencedColumns := [], onUpdate := .noAction,
    onDelete := .noAction }) (fun name => rfl) key.schema).bind ?_
  exact leads_setReference _ (fun key setter => leads_setField _ (.addForeignKey key)) key

theorem ensures_toKey : Ensures (bound.toKey schema) (·.schema = schema) := by
  unfold toKey
  iterate 3 refine .bind fun _ _ => ?_
  exact .ok rfl

theorem records_key {entry : String → String → List String → Entry} {made : Key → Operation}
    (hentry : ∀ name table columns,
      (entry name table columns).operation = made { name, table, columns })
    (hschema : ∀ key name, (made key).setSchema name = made { key with schema := some name }) :
    Records (bound.recordKey schema entry) (return made (← bound.toKey schema)) := by
  refine records_lift_bind fun key hkey => ?_
  cases ensures_toKey _ hkey
  refine Leads.records ?_
  rw [hentry]
  exact leads_setSchema (fun schema => made { key with schema }) (fun name => hschema _ name) _

theorem ensures_toIndex : Ensures (bound.toIndex schema) (·.schema = schema) := by
  unfold toIndex
  refine .bind fun key hkey => .bind fun _ _ => ?_
  exact .ok (ensures_toKey key hkey)

theorem records_index :
    Records (bound.recordIndex schema) (return .createIndex (← bound.toIndex schema)) := by
  refine records_lift_bind fun index hindex => ?_
  cases ensures_toIndex _ hindex
  refine Leads.records ?_
  refine (leads_setSchema (fun schema => .createIndex { index with schema, isUnique := false })
    (fun name => rfl) index.schema).bind ?_
  exact leads_setField (.unique index.isUnique) _

theorem ensures_toSequenceChange : Ensures (bound.toSequenceChange schema) (·.schema = schema) := by
  unfold toSequenceChange
  iterate 5 refine .bind fun _ _ => ?_
  exact .ok rfl

theorem records_sequenceChange :
    Records (bound.recordSequenceChange schema)
      (return .alterSequence (← bound.toSequenceChange schema)) := by
  refine records_lift_bind fun change hchange => ?_
  cases ensures_toSequenceChange _ hchange
  have hschema := leads_setSchema (fun schema => .alterSequence { name := change.name, schema })
    (fun name => rfl) change.schema
  have hincrement := leads_ifGiven
    (fun incrementBy => .alterSequence
      { name := change.name, schema := change.schema, incrementBy })
    (fun value => leads_setField (.incrementBy value) _) change.incrementBy
  have hmin := leads_ifGiven
    (fun minValue => .alterSequence { change with minValue, maxValue := none, cycle := false })
    (fun value => leads_setField (.minValue value) _) change.minValue
  have hmax := leads_ifGiven
    (fun maxValue => .alterSequence { change with maxValue, cycle := false })
    (fun value => leads_setField (.maxValue value) _) change.maxValue
  have hcycle := leads_setField (.cycle change.cycle)
    (.alterSequence { change with cycle := false })
  exact (hschema.bind (hincrement.bind (hmin.bind (hmax.bind hcycle)))).records

theorem ensures_toSequence : Ensures (bound.toSequence schema) (·.schema = schema) := by
  unfold toSequence
  iterate 7 refine .bind fun _ _ => ?_
  exact .ok rfl

theorem records_sequence :
    Records (bound.recordSequence schema)
      (return .createSequence (← bound.toSequence schema)) := by
  refine records_lift_bind fun sequence hsequence => ?_
  cases ensures_toSequence _ hsequence
  have hschema := leads_setSchema (fun schema => .createSequence { name := sequence.name, schema })
    (fun name => rfl) sequence.schema
  have htype := leads_ifGiven
    (fun type => .createSequence { name := sequence.name, schema := sequence.schema, type })
    (fun value => leads_setField (.sequenceType value) _) sequence.type
  have hstart := leads_ifGiven
    (fun startWith => .createSequence
      { sequence with
        startWith, incrementBy := none, minValue := none, maxValue := none, cycle := false })
    (fun value => leads_setField (.startWith value) _) sequence.startWith
  have hincrement := leads_ifGiven
    (fun incrementBy => .createSequence
      { sequence with incrementBy, minValue := none, maxValue := none, cycle := false })
    (fun value => leads_setField (.incrementBy value) _) sequence.incrementBy
  have hmin := leads_ifGiven
    (fun minValue => .createSequence { sequence with minValue, maxValue := none, cycle := false })
    (fun value => leads_setField (.minValue value) _) sequence.minValue
  have hmax := leads_ifGiven
    (fun maxValue => .createSequence { sequence with maxValue, cycle := false })
    (fun value => leads_setField (.maxValue value) _) sequence.maxValue
  have hcycle := leads_setField (.cycle sequence.cycle)
    (.createSequence { sequence with cycle := false })
  exact (hschema.bind (htype.bind (hstart.bind (hincrement.bind (hmin.bind
    (hmax.bind hcycle)))))).records

theorem records_table : Records bound.recordTable (return .createTable (← Table.ofBound bound)) :=
  records_lift_bind fun _ htable => records_declareTable (Table.ensures_ofBound _ _ htable)

theorem ensures_toTableMember : Ensures (bound.toTableMember schema) (·.schema = schema) := by
  unfold toTableMember
  iterate 2 refine .bind fun _ _ => ?_
  exact .ok rfl

theorem records_tableMember {entry : String → String → Entry} {made : TableMember → Operation}
    (hentry : ∀ name table, (entry name table).operation = made { name, table })
    (hschema : ∀ member name,
      (made member).setSchema name = made { member with schema := some name }) :
    Records (bound.recordTableMember schema entry)
      (return made (← bound.toTableMember schema)) := by
  refine records_lift_bind fun member hmember => ?_
  cases ensures_toTableMember _ hmember
  refine Leads.records ?_
  rw [hentry]
  exact leads_setSchema (fun schema => made { member with schema }) (fun name => hschema _ name) _

theorem ensures_toSchemaObject : Ensures (bound.toSchemaObject schema) (·.schema = schema) := by
  unfold toSchemaObject
  iterate 1 refine .bind fun _ _ => ?_
  exact .ok rfl

theorem records_schemaObject {entry : String → Entry} {made : SchemaObject → Operation}
    (hentry : ∀ name, (entry name).operation = made { name })
    (hschema : ∀ object name,
      (made object).setSchema name = made { object with schema := some name }) :
    Records (bound.recordSchemaObject schema entry)
      (return made (← bound.toSchemaObject schema)) := by
  refine records_lift_bind fun object hobject => ?_
  cases ensures_toSchemaObject _ hobject
  refine Leads.records ?_
  rw [hentry]
  exact leads_setSchema (fun schema => made { object with schema }) (fun name => hschema _ name) _

theorem records_schemaName {entry : String → Entry} {made : SchemaName → Operation}
    (hentry : ∀ name, (entry name).operation = made { name }) :
    Records (bound.recordSchemaName entry) (return made (← bound.toSchemaName)) := by
  refine records_lift_bind fun created _ => ?_
  have henter := records_enter (entry created.name)
  rwa [hentry] at henter

theorem ensures_toMemberRename : Ensures (bound.toMemberRename schema) (·.schema = schema) := by
  unfold toMemberRename
  iterate 3 refine .bind fun _ _ => ?_
  exact .ok rfl

theorem records_memberRename {entry : String → String → String → Entry}
    {made : MemberRename → Operation}
    (hentry : ∀ name table newName,
      (entry name table newName).operation = made { name, table, newName })
    (hschema : ∀ rename name,
      (made rename).setSchema name = made { rename with schema := some name }) :
    Records (bound.recordMemberRename schema entry)
      (return made (← bound.toMemberRename schema)) := by
  refine records_lift_bind fun rename hrename => ?_
  cases ensures_toMemberRename _ hrename
  refine Leads.records ?_
  rw [hentry]
  exact leads_setSchema (fun schema => made { rename with schema }) (fun name => hschema _ name) _

theorem ensures_toObjectRename : Ensures (bound.toObjectRename schema) (·.schema = schema) := by
  unfold toObjectRename
  iterate 3 refine .bind fun _ _ => ?_
  exact .ok rfl

theorem records_objectRename {entry : String → Entry} {made : ObjectRename → Operation}
    (hentry : ∀ name, (entry name).operation = made { name })
    (hschema : ∀ rename name,
      (made rename).setSchema name = made { rename with schema := some name })
    (hname : ∀ rename name,
      (made rename).set (.newName name) = made { rename with newName := some name })
    (hnew : ∀ rename name,
      (made rename).set (.newSchema name) = made { rename with newSchema := some name }) :
    Records (bound.recordObjectRename schema entry)
      (return made (← bound.toObjectRename schema)) := by
  refine records_lift_bind fun rename hrename => ?_
  cases ensures_toObjectRename _ hrename
  refine Leads.records ?_
  rw [hentry]
  have hfirst := leads_setSchema (fun schema => made { name := rename.name, schema })
    (fun name => hschema _ name) rename.schema
  have hsecond := leads_ifGiven (fun newName => made { rename with newName, newSchema := none })
    (fun name => hname _ name ▸ leads_setField (.newName name) _) rename.newName
  have hthird := leads_ifGiven (fun newSchema => made { rename with newSchema })
    (fun name => hnew _ name ▸ leads_setField (.newSchema name) _) rename.newSchema
  exact hfirst.bind (hsecond.bind hthird)

theorem ensures_toSequenceRestart :
    Ensures (bound.toSequenceRestart schema) (·.schema = schema) := by
  unfold toSequenceRestart
  iterate 2 refine .bind fun _ _ => ?_
  exact .ok rfl

theorem records_sequenceRestart :
    Records (bound.recordSequenceRestart schema)
      (return .restartSequence (← bound.toSequenceRestart schema)) := by
  refine records_lift_bind fun restart hrestart => ?_
  cases ensures_toSequenceRestart _ hrestart
  exact (leads_setSchema (fun schema => .restartSequence { restart with schema })
    (fun name => rfl) restart.schema).records

theorem records_sqlText :
    Records bound.recordSqlText (return .sql (← bound.toSqlText)) := by
  refine records_lift_bind fun statement _ => ?_
  exact (leads_setField (.suppressTransaction statement.suppressTransaction)
    (.sql { sql := statement.sql })).records

theorem records_record (kind : Kind) : Records (bound.record kind) (bound.toOperation kind) := by
  refine records_lift_bind fun schema _ => ?_
  cases kind with
  | addColumn => exact records_column (fun _ _ _ => rfl) (fun _ _ => rfl) (fun _ _ => rfl)
  | addForeignKey => exact records_foreignKey
  | addPrimaryKey => exact records_key (fun _ _ _ => rfl) (fun _ _ => rfl)
  | addUniqueConstraint => exact records_key (fun _ _ _ => rfl) (fun _ _ => rfl)
  | alterColumn => exact records_column (fun _ _ _ => rfl) (fun _ _ => rfl) (fun _ _ => rfl)
  | alterSequence => exact records_sequenceChange
  | createIndex => exact records_index
  | createSchema => exact records_schemaName (fun _ => rfl)
  | createSequence => exact records_sequence
  | createTable => exact records_table
  | dropColumn => exact records_tableMember (fun _ _ => rfl) (fun _ _ => rfl)
  | dropForeignKey => exact records_tableMember (fun _ _ => rfl) (fun _ _ => rfl)
  | dropIndex => exact records_tableMember (fun _ _ => rfl) (fun _ _ => rfl)
  | dropPrimaryKey => exact records_tableMember (fun _ _ => rfl) (fun _ _ => rfl)
  | dropSchema => exact records_schemaName (fun _ => rfl)
  | dropSequence => exact records_schemaObject (fun _ => rfl) (fun _ _ => rfl)
  | dropTable => exact records_schemaObject (fun _ => rfl) (fun _ _ => rfl)
  | dropUniqueConstraint => exact records_tableMember (fun _ _ => rfl) (fun _ _ => rfl)
  | renameColumn => exact records_memberRename (fun _ _ _ => rfl) (fun _ _ => rfl)
  | renameIndex => exact records_memberRename (fun _ _ _ => rfl) (fun _ _ => rfl)
  | renameSequence =>
    exact records_objectRename (fun _ => rfl) (fun _ _ => rfl) (fun _ _ => rfl) (fun _ _ => rfl)
  | renameTable =>
    exact records_objectRename (fun _ => rfl) (fun _ _ => rfl) (fun _ _ => rfl) (fun _ _ => rfl)
  | restartSequence => exact records_sequenceRestart
  | sql => exact records_sqlText

end Bound

/-- A statement appends the operation that it means, or fails and changes nothing. -/
theorem records_execute (builder : String) (call : Call) :
    Run.Records (call.execute builder) (call.operation builder) := by
  refine Run.records_lift_bind fun _ _ => ?_
  cases hkind : Kind.ofMethod? call.method with
  | some kind => exact Run.records_lift_bind fun bound _ => bound.records_record kind
  | none => exact fun _ => rfl

end MigrationScript
