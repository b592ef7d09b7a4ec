import MigrationScript.Operation.Basic

namespace MigrationScript

/-- What a column may have besides its name and type. -/
inductive ColumnSetter
  | nullable (value : Bool)
  | defaultValue (value : DefaultValue)
  | defaultExpression (expression : String)

inductive ReferenceSetter
  | referencedSchema (name : String)
  | referencedColumns (columns : List String)
  | onUpdate (action : ReferentialAction)
  | onDelete (action : ReferentialAction)

inductive Setter
  | schema (name : String)
  | column (setter : ColumnSetter)
  | reference (setter : ReferenceSetter)
  | incrementBy (value : Int32)
  | minValue (value : Int64)
  | maxValue (value : Int64)
  | cycle (value : Bool)
  | sequenceType (type : String)
  | startWith (value : Int64)
  | unique (value : Bool)
  | newName (name : String)
  | newSchema (name : String)
  | suppressTransaction (value : Bool)

/-- Sets a field; a default value and a default expression do not touch each other. -/
def Column.set (column : Column) : ColumnSetter → Column
  | .nullable isNullable => { column with isNullable }
  | .defaultValue value => { column with defaultValue := some value }
  | .defaultExpression expression => { column with defaultExpression := some expression }

def ForeignKey.set (key : ForeignKey) : ReferenceSetter → ForeignKey
  | .referencedSchema name => { key with referencedSchema := some name }
  | .referencedColumns referencedColumns => { key with referencedColumns }
  | .onUpdate onUpdate => { key with onUpdate }
  | .onDelete onDelete => { key with onDelete }

def SequenceChange.set (change : SequenceChange) : Setter → SequenceChange
  | .incrementBy value => { change with incrementBy := some value }
  | .minValue value => { change with minValue := some value }
  | .maxValue value => { change with maxValue := some value }
  | .cycle cycle => { change with cycle }
  | _ => change

def Sequence.set (sequence : Sequence) : Setter → Sequence
  | .sequenceType type => { sequence with type := some type }
  | .startWith value => { sequence with startWith := some value }
  | .incrementBy value => { sequence with incrementBy := some value }
  | .minValue value => { sequence with minValue := some value }
  | .maxValue value => { sequence with maxValue := some value }
  | .cycle cycle => { sequence with cycle }
  | _ => sequence

def ObjectRename.set (rename : ObjectRename) : Setter → ObjectRename
  | .newName name => { rename with newName := some name }
  | .newSchema name => { rename with newSchema := some name }
  | _ => rename

namespace Operation

/-- Sets the schema; a table has a step of its own for that. -/
def setSchema (name : String) : Operation → Operation
  | .addColumn column => .addColumn { column with schema := some name }
  | .addForeignKey key => .addForeignKey { key with schema := some name }
  | .addPrimaryKey key => .addPrimaryKey { key with schema := some name }
  | .addUniqueConstraint key => .addUniqueConstraint { key with schema := some name }
  | .alterColumn column => .alterColumn { column with schema := some name }
  | .alterSequence change => .alterSequence { change with schema := some name }
  | .createIndex index => .createIndex { index with schema := some name }
  | .createSequence sequence => .createSequence { sequence with schema := some name }
  | .dropColumn member => .dropColumn { member with schema := some name }
  | .dropForeignKey member => .dropForeignKey { member with schema := some name }
  | .dropIndex member => .dropIndex { member with schema := some name }
  | .dropPrimaryKey member => .dropPrimaryKey { member with schema := some name }
  | .dropSequence object => .dropSequence { object with schema := some name }
  | .dropTable object => .dropTable { object with schema := some name }
  | .dropUniqueConstraint member => .dropUniqueConstraint { member with schema := some name }
  | .renameColumn rename => .renameColumn { rename with schema := some name }
  | .renameIndex rename => .renameIndex { rename with schema := some name }
  | .renameSequence rename => .renameSequence { rename with schema := some name }
  | .renameTable rename => .renameTable { rename with schema := some name }
  | .restartSequence restart => .restartSequence { restart with schema := some name }
  | operation => operation

/-- Sets a field that the operation has; it does not change otherwise. -/
def set (operation : Operation) (setter : Setter) : Operation :=
  match operation, setter with
  | operation, .schema name => operation.setSchema name
  | .addColumn column, .column setter => .addColumn (column.set setter)
  | .alterColumn column, .column setter => .alterColumn (column.set setter)
  | .addForeignKey key, .reference setter => .addForeignKey (key.set setter)
  | .alterSequence change, setter => .alterSequence (change.set setter)
  | .createSequence sequence, setter => .createSequence (sequence.set setter)
  | .createIndex index, .unique isUnique => .createIndex { index with isUnique }
  | .renameSequence rename, setter => .renameSequence (rename.set setter)
  | .renameTable rename, setter => .renameTable (rename.set setter)
  | .sql statement, .suppressTransaction suppressTransaction =>
    .sql { statement with suppressTransaction }
  | operation, _ => operation

end Operation

end MigrationScript
