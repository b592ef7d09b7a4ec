import MigrationScript.Builder.Recorder
import MigrationScript.Meaning.Statement
import MigrationScript.Tree.Parser

/-!
# Running a script

Each statement reads its arguments and then calls the recorder, which appends an operation with the
usual values and sets the fields that the statement gives. What is recorded stays also where a later
statement fails. A script that cannot be read records nothing.
-/

namespace MigrationScript

/-- A run over the operations recorded so far. -/
abbrev Run := EStateM ScriptError (List Operation)

instance : MonadLift (Except ScriptError) Run where
  monadLift
    | .ok value => pure value
    | .error error => throw error

namespace Run

/-- One step of recording; it cannot fail. -/
def step (recording : Recording) : Run Unit :=
  modify (recordStep · recording)

def enter (entry : Entry) : Run Unit :=
  step (.entry entry)

def setField (setter : Setter) : Run Unit :=
  step (.set setter)

def declare (declaration : TableStep) : Run Unit :=
  step (.declare declaration)

def ifGiven {α : Type} (value : Option α) (act : α → Run Unit) : Run Unit :=
  match value with
  | some value => act value
  | none => pure ()

def setSchema (schema : Option String) : Run Unit :=
  ifGiven schema fun name => setField (.schema name)

def setOptions (column : Column) (act : ColumnSetter → Run Unit) : Run Unit := do
  act (.nullable column.isNullable)
  ifGiven column.defaultValue fun value => act (.defaultValue value)
  ifGiven column.defaultExpression fun expression => act (.defaultExpression expression)

/-- Sets the referenced side of a foreign key, but for the table. -/
def setReference (key : ForeignKey) (act : ReferenceSetter → Run Unit) : Run Unit := do
  ifGiven key.referencedSchema fun name => act (.referencedSchema name)
  act (.referencedColumns key.referencedColumns)
  act (.onUpdate key.onUpdate)
  act (.onDelete key.onDelete)

def handle (table : Table) (column : String) : ColumnHandle :=
  ⟨column, table.name, table.schema⟩

def declareColumn (column : Column) : Run Unit := do
  declare (.column column.name column.type)
  setOptions column fun setter => declare (.setColumn setter)

def declareForeignKey (table : Table) (key : ForeignKey) : Run Unit := do
  declare (.foreignKey key.name (key.columns.map (handle table)) key.referencedTable)
  setReference key fun setter => declare (.setReference setter)

/-- Declares a table that has been read completely. -/
def declareTable (table : Table) : Run Unit := do
  enter (.createTable table.name)
  ifGiven table.schema fun name => declare (.schema name)
  table.columns.forM declareColumn
  ifGiven table.primaryKey fun key =>
    declare (.primaryKey key.name (key.columns.map (handle table)))
  table.foreignKeys.forM (declareForeignKey table)
  table.uniqueConstraints.forM fun key =>
    declare (.unique key.name (key.columns.map (handle table)))

end Run

namespace Bound

/-! The arguments of a call are read before the recorder is called. Methods with the same parameters
differ in the operation that they enter. -/

def recordColumn (bound : Bound) (schema : Option String)
    (entry : String → String → String → Entry) : Run Unit := do
  let column ← bound.toColumn schema
  Run.enter (entry column.name column.table column.type)
  Run.setSchema schema
  Run.setOptions column fun setter => Run.setField (.column setter)

def recordForeignKey (bound : Bound) (schema : Option String) : Run Unit := do
  let key ← bound.toForeignKey schema
  Run.enter (.addForeignKey key.name key.table key.columns key.referencedTable)
  Run.setSchema schema
  Run.setReference key fun setter => Run.setField (.reference setter)

def recordKey (bound : Bound) (schema : Option String)
    (entry : String → String → List String → Entry) : Run Unit := do
  let key ← bound.toKey schema
  Run.enter (entry key.name key.table key.columns)
  Run.setSchema schema

def recordIndex (bound : Bound) (schema : Option String) : Run Unit := do
  let index ← bound.toIndex schema
  Run.enter (.createIndex index.name index.table index.columns)
  Run.setSchema schema
  Run.setField (.unique index.isUnique)

def recordSequenceChange (bound : Bound) (schema : Option String) : Run Unit := do
  let change ← bound.toSequenceChange schema
  Run.enter (.alterSequence change.name)
  Run.setSchema schema
  Run.ifGiven change.incrementBy fun value => Run.setField (.incrementBy value)
  Run.ifGiven change.minValue fun value => Run.setField (.minValue value)
  Run.ifGiven change.maxValue fun value => Run.setField (.maxValue value)
  Run.setField (.cycle change.cycle)

def recordSequence (bound : Bound) (schema : Option String) : Run Unit := do
  let sequence ← bound.toSequence schema
  Run.enter (.createSequence sequence.name)
  Run.setSchema schema
  Run.ifGiven sequence.type fun type => Run.setField (.sequenceType type)
  Run.ifGiven sequence.startWith fun value => Run.setField (.startWith value)
  Run.ifGiven sequence.incrementBy fun value => Run.setField (.incrementBy value)
  Run.ifGiven sequence.minValue fun value => Run.setField (.minValue value)
  Run.ifGiven sequence.maxValue fun value => Run.setField (.maxValue value)
  Run.setField (.cycle sequence.cycle)

def recordTable (bound : Bound) : Run Unit := do
  let table ← Table.ofBound bound
  Run.declareTable table

def recordTableMember (bound : Bound) (schema : Option String)
    (entry : String → String → Entry) : Run Unit := do
  let member ← bound.toTableMember schema
  Run.enter (entry member.name member.table)
  Run.setSchema schema

def recordSchemaObject (bound : Bound) (schema : Option String) (entry : String → Entry) :
    Run Unit := do
  let object ← bound.toSchemaObject schema
  Run.enter (entry object.name)
  Run.setSchema schema

def recordSchemaName (bound : Bound) (entry : String → Entry) : Run Unit := do
  let schema ← bound.toSchemaName
  Run.enter (entry schema.name)

def recordMemberRename (bound : Bound) (schema : Option String)
    (entry : String → String → String → Entry) : Run Unit := do
  let rename ← bound.toMemberRename schema
  Run.enter (entry rename.name rename.table rename.newName)
  Run.setSchema schema

def recordObjectRename (bound : Bound) (schema : Option String) (entry : String → Entry) :
    Run Unit := do
  let rename ← bound.toObjectRename schema
  Run.enter (entry rename.name)
  Run.setSchema schema
  Run.ifGiven rename.newName fun name => Run.setField (.newName name)
  Run.ifGiven rename.newSchema fun name => Run.setField (.newSchema name)

def recordSequenceRestart (bound : Bound) (schema : Option String) : Run Unit := do
  let restart ← bound.toSequenceRestart schema
  Run.enter (.restartSequence restart.name restart.restartWith)
  Run.setSchema schema

def recordSqlText (bound : Bound) : Run Unit := do
  let statement ← bound.toSqlText
  Run.enter (.sql statement.sql)
  Run.setField (.suppressTransaction statement.suppressTransaction)

/-- Records the operation of a kind that the values of the parameters describe. -/
def record (bound : Bound) (kind : Kind) : Run Unit := do
  let schema ← bound.optional Expr.toText "schema"
  match kind with
  | .addColumn => bound.recordColumn schema .addColumn
  | .addForeignKey => bound.recordForeignKey schema
  | .addPrimaryKey => bound.recordKey schema .addPrimaryKey
  | .addUniqueConstraint => bound.recordKey schema .addUniqueConstraint
  | .alterColumn => bound.recordColumn schema .alterColumn
  | .alterSequence => bound.recordSequenceChange schema
  | .createIndex => bound.recordIndex schema
  | .createSchema => bound.recordSchemaName .createSchema
  | .createSequence => bound.recordSequence schema
  | .createTable => bound.recordTable
  | .dropColumn => bound.recordTableMember schema .dropColumn
  | .dropForeignKey => bound.recordTableMember schema .dropForeignKey
  | .dropIndex => bound.recordTableMember schema .dropIndex
  | .dropPrimaryKey => bound.recordTableMember schema .dropPrimaryKey
  | .dropSchema => bound.recordSchemaName .dropSchema
  | .dropSequence => bound.recordSchemaObject schema .dropSequence
  | .dropTable => bound.recordSchemaObject schema .dropTable
  | .dropUniqueConstraint => bound.recordTableMember schema .dropUniqueConstraint
  | .renameColumn => bound.recordMemberRename schema .renameColumn
  | .renameIndex => bound.recordMemberRename schema .renameIndex
  | .renameSequence => bound.recordObjectRename schema .renameSequence
  | .renameTable => bound.recordObjectRename schema .renameTable
  | .restartSequence => bound.recordSequenceRestart schema
  | .sql => bound.recordSqlText

end Bound

/-- Runs a statement: a call of the method of a kind on the builder. -/
def Call.execute (builder : String) (call : Call) : Run Unit := do
  call.addresses builder
  match Kind.ofMethod? call.method with
  | some kind =>
    let bound ← Bound.ofCall call kind.parameters
    bound.record kind
  | none => (call.unknownMethod : Except ScriptError Unit)

/-- Runs statements up to the first one that fails. -/
def execute (builder : String) : List Call → Run Unit
  | [] => pure ()
  | statement :: rest => do
    statement.execute builder
    execute builder rest

/-- Runs a script behind the operations recorded before. -/
def run (builder source : String) (recorded : List Operation) :
    List Operation × Except ScriptError Unit :=
  match parse source with
  | .error error => (recorded, .error (.ofParseError error))
  | .ok statements =>
    match execute builder statements recorded with
    | .ok () recorded => (recorded, .ok ())
    | .error error recorded => (recorded, .error error)

/-- The operations of a script, if all of it can be run. -/
def reconstruct (builder source : String) : Except ScriptError (List Operation) :=
  match run builder source [] with
  | (operations, .ok ()) => .ok operations
  | (_, .error error) => .error error

end MigrationScript
