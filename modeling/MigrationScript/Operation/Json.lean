import MigrationScript.Json.Standard
import MigrationScript.Operation.Basic

/-!
# The declarations of operations

How operations and what is in them are exchanged: the fields of each record under the names that
they have in the exchange, and the forms of a default and of an operation with their tags. The
codecs are those that a library derives from these.
-/

namespace MigrationScript

/-! ### Values -/

def ReferentialAction.units : Units ReferentialAction where
  name := name
  ofName? := ofName?
  ofName?_eq_some_iff := ofName?_eq_some_iff

inductive DefaultForm
  | bool
  | int
  | long
  | double
  | string
  deriving DecidableEq

namespace DefaultForm

def name : DefaultForm → String
  | .bool => "bool"
  | .int => "int"
  | .long => "long"
  | .double => "double"
  | .string => "string"

def ofName? (name : String) : Option DefaultForm :=
  [bool, int, long, double, string].find? fun form => form.name == name

def units : Units DefaultForm where
  name := name
  ofName? := ofName?
  ofName?_eq_some_iff {text form} := by
    constructor
    · intro h
      have hfound := List.find?_some h
      exact beq_iff_eq.1 hfound
    · rintro rfl
      cases form <;> decide

abbrev Content : DefaultForm → Type
  | .bool => Bool
  | .int => Int32
  | .long => Int64
  | .double => Double
  | .string => String

end DefaultForm

namespace Derive

variable (derive : Derive)

def action : Codec ReferentialAction :=
  derive.units ReferentialAction.units

def defaultVariants : Variants DefaultValue where
  tags := DefaultForm.units
  Content := DefaultForm.Content
  codec
    | .bool => derive.bool
    | .int => derive.int32
    | .long => derive.int64
    | .double => derive.double
    | .string => derive.string
  wrap
    | .bool => .bool
    | .int => .int
    | .long => .long
    | .double => .double
    | .string => .string
  split
    | .bool value => ⟨.bool, value⟩
    | .int value => ⟨.int, value⟩
    | .long value => ⟨.long, value⟩
    | .double value => ⟨.double, value⟩
    | .string value => ⟨.string, value⟩
  wrap_split value := by cases value <;> rfl
  split_wrap form content := by cases form <;> rfl

def defaultValue : Codec DefaultValue :=
  derive.external derive.defaultVariants

def strings : Codec (List String) :=
  derive.list derive.string

def optionalString : Codec (Option String) :=
  derive.option derive.string

def optionalInt32 : Codec (Option Int32) :=
  derive.option derive.int32

def optionalInt64 : Codec (Option Int64) :=
  derive.option derive.int64

/-! ### Records -/

def column : Record Column where
  fields := [
    ⟨"name", derive.string, (·.name), fun name column => { column with name }⟩,
    ⟨"schema", derive.optionalString, (·.schema), fun schema column => { column with schema }⟩,
    ⟨"table", derive.string, (·.table), fun table column => { column with table }⟩,
    ⟨"type", derive.string, (·.type), fun type column => { column with type }⟩,
    ⟨"isNullable", derive.bool, (·.isNullable),
      fun isNullable column => { column with isNullable }⟩,
    ⟨"defaultValue", derive.option derive.defaultValue, (·.defaultValue),
      fun defaultValue column => { column with defaultValue }⟩,
    ⟨"defaultExpression", derive.optionalString, (·.defaultExpression),
      fun defaultExpression column => { column with defaultExpression }⟩]
  initial := {}
  nodup := by simp
  get_set := by simp
  apart := by simp [Field.Apart]
  ext := by rintro ⟨⟩ ⟨⟩; simp

def key : Record Key where
  fields := [
    ⟨"name", derive.string, (·.name), fun name key => { key with name }⟩,
    ⟨"schema", derive.optionalString, (·.schema), fun schema key => { key with schema }⟩,
    ⟨"table", derive.string, (·.table), fun table key => { key with table }⟩,
    ⟨"columns", derive.strings, (·.columns), fun columns key => { key with columns }⟩]
  initial := {}
  nodup := by simp
  get_set := by simp
  apart := by simp [Field.Apart]
  ext := by rintro ⟨⟩ ⟨⟩; simp

def foreignKey : Record ForeignKey where
  fields := [
    ⟨"name", derive.string, (·.name), fun name key => { key with name }⟩,
    ⟨"schema", derive.optionalString, (·.schema), fun schema key => { key with schema }⟩,
    ⟨"table", derive.string, (·.table), fun table key => { key with table }⟩,
    ⟨"columns", derive.strings, (·.columns), fun columns key => { key with columns }⟩,
    ⟨"referencedSchema", derive.optionalString, (·.referencedSchema),
      fun referencedSchema key => { key with referencedSchema }⟩,
    ⟨"referencedTable", derive.string, (·.referencedTable),
      fun referencedTable key => { key with referencedTable }⟩,
    ⟨"referencedColumns", derive.strings, (·.referencedColumns),
      fun referencedColumns key => { key with referencedColumns }⟩,
    ⟨"onUpdate", derive.action, (·.onUpdate), fun onUpdate key => { key with onUpdate }⟩,
    ⟨"onDelete", derive.action, (·.onDelete), fun onDelete key => { key with onDelete }⟩]
  initial := {}
  nodup := by simp
  get_set := by simp
  apart := by simp [Field.Apart]
  ext := by rintro ⟨⟩ ⟨⟩; simp

def index : Record Index where
  fields := [
    ⟨"name", derive.string, (·.name), fun name index => { index with name }⟩,
    ⟨"schema", derive.optionalString, (·.schema), fun schema index => { index with schema }⟩,
    ⟨"table", derive.string, (·.table), fun table index => { index with table }⟩,
    ⟨"columns", derive.strings, (·.columns), fun columns index => { index with columns }⟩,
    ⟨"isUnique", derive.bool, (·.isUnique), fun isUnique index => { index with isUnique }⟩]
  initial := {}
  nodup := by simp
  get_set := by simp
  apart := by simp [Field.Apart]
  ext := by rintro ⟨⟩ ⟨⟩; simp

def sequenceChange : Record SequenceChange where
  fields := [
    ⟨"name", derive.string, (·.name), fun name change => { change with name }⟩,
    ⟨"schema", derive.optionalString, (·.schema), fun schema change => { change with schema }⟩,
    ⟨"incrementBy", derive.optionalInt32, (·.incrementBy),
      fun incrementBy change => { change with incrementBy }⟩,
    ⟨"minValue", derive.optionalInt64, (·.minValue),
      fun minValue change => { change with minValue }⟩,
    ⟨"maxValue", derive.optionalInt64, (·.maxValue),
      fun maxValue change => { change with maxValue }⟩,
    ⟨"cycle", derive.bool, (·.cycle), fun cycle change => { change with cycle }⟩]
  initial := {}
  nodup := by simp
  get_set := by simp
  apart := by simp [Field.Apart]
  ext := by rintro ⟨⟩ ⟨⟩; simp

def sequence : Record Sequence where
  fields := [
    ⟨"name", derive.string, (·.name), fun name sequence => { sequence with name }⟩,
    ⟨"schema", derive.optionalString, (·.schema),
      fun schema sequence => { sequence with schema }⟩,
    ⟨"type", derive.optionalString, (·.type), fun type sequence => { sequence with type }⟩,
    ⟨"startWith", derive.optionalInt64, (·.startWith),
      fun startWith sequence => { sequence with startWith }⟩,
    ⟨"incrementBy", derive.optionalInt32, (·.incrementBy),
      fun incrementBy sequence => { sequence with incrementBy }⟩,
    ⟨"minValue", derive.optionalInt64, (·.minValue),
      fun minValue sequence => { sequence with minValue }⟩,
    ⟨"maxValue", derive.optionalInt64, (·.maxValue),
      fun maxValue sequence => { sequence with maxValue }⟩,
    ⟨"cycle", derive.bool, (·.cycle), fun cycle sequence => { sequence with cycle }⟩]
  initial := {}
  nodup := by simp
  get_set := by simp
  apart := by simp [Field.Apart]
  ext := by rintro ⟨⟩ ⟨⟩; simp

def table : Record Table where
  fields := [
    ⟨"name", derive.string, (·.name), fun name table => { table with name }⟩,
    ⟨"schema", derive.optionalString, (·.schema), fun schema table => { table with schema }⟩,
    ⟨"columns", derive.list (derive.record derive.column), (·.columns),
      fun columns table => { table with columns }⟩,
    ⟨"primaryKey", derive.option (derive.record derive.key), (·.primaryKey),
      fun primaryKey table => { table with primaryKey }⟩,
    ⟨"foreignKeys", derive.list (derive.record derive.foreignKey), (·.foreignKeys),
      fun foreignKeys table => { table with foreignKeys }⟩,
    ⟨"uniqueConstraints", derive.list (derive.record derive.key), (·.uniqueConstraints),
      fun uniqueConstraints table => { table with uniqueConstraints }⟩]
  initial := {}
  nodup := by simp
  get_set := by simp
  apart := by simp [Field.Apart]
  ext := by rintro ⟨⟩ ⟨⟩; simp

def tableMember : Record TableMember where
  fields := [
    ⟨"name", derive.string, (·.name), fun name member => { member with name }⟩,
    ⟨"schema", derive.optionalString, (·.schema), fun schema member => { member with schema }⟩,
    ⟨"table", derive.string, (·.table), fun table member => { member with table }⟩]
  initial := {}
  nodup := by simp
  get_set := by simp
  apart := by simp [Field.Apart]
  ext := by rintro ⟨⟩ ⟨⟩; simp

def schemaObject : Record SchemaObject where
  fields := [
    ⟨"name", derive.string, (·.name), fun name object => { object with name }⟩,
    ⟨"schema", derive.optionalString, (·.schema), fun schema object => { object with schema }⟩]
  initial := {}
  nodup := by simp
  get_set := by simp
  apart := by simp [Field.Apart]
  ext := by rintro ⟨⟩ ⟨⟩; simp

def schemaName : Record SchemaName where
  fields := [⟨"name", derive.string, (·.name), fun name schema => { schema with name }⟩]
  initial := {}
  nodup := by simp
  get_set := by simp
  apart := by simp
  ext := by rintro ⟨⟩ ⟨⟩; simp

def memberRename : Record MemberRename where
  fields := [
    ⟨"name", derive.string, (·.name), fun name rename => { rename with name }⟩,
    ⟨"schema", derive.optionalString, (·.schema), fun schema rename => { rename with schema }⟩,
    ⟨"table", derive.string, (·.table), fun table rename => { rename with table }⟩,
    ⟨"newName", derive.string, (·.newName), fun newName rename => { rename with newName }⟩]
  initial := {}
  nodup := by simp
  get_set := by simp
  apart := by simp [Field.Apart]
  ext := by rintro ⟨⟩ ⟨⟩; simp

def objectRename : Record ObjectRename where
  fields := [
    ⟨"name", derive.string, (·.name), fun name rename => { rename with name }⟩,
    ⟨"schema", derive.optionalString, (·.schema), fun schema rename => { rename with schema }⟩,
    ⟨"newName", derive.optionalString, (·.newName),
      fun newName rename => { rename with newName }⟩,
    ⟨"newSchema", derive.optionalString, (·.newSchema),
      fun newSchema rename => { rename with newSchema }⟩]
  initial := {}
  nodup := by simp
  get_set := by simp
  apart := by simp [Field.Apart]
  ext := by rintro ⟨⟩ ⟨⟩; simp

def sequenceRestart : Record SequenceRestart where
  fields := [
    ⟨"name", derive.string, (·.name), fun name restart => { restart with name }⟩,
    ⟨"schema", derive.optionalString, (·.schema), fun schema restart => { restart with schema }⟩,
    ⟨"restartWith", derive.int64, (·.restartWith),
      fun restartWith restart => { restart with restartWith }⟩]
  initial := {}
  nodup := by simp
  get_set := by simp
  apart := by simp [Field.Apart]
  ext := by rintro ⟨⟩ ⟨⟩; simp

def sqlText : Record SqlText where
  fields := [
    ⟨"sql", derive.string, (·.sql), fun sql statement => { statement with sql }⟩,
    ⟨"suppressTransaction", derive.bool, (·.suppressTransaction),
      fun suppressTransaction statement => { statement with suppressTransaction }⟩]
  initial := {}
  nodup := by simp
  get_set := by simp
  apart := by simp [Field.Apart]
  ext := by rintro ⟨⟩ ⟨⟩; simp

end Derive

/-! ### Operations -/

def Kind.units : Units Kind where
  name := method
  ofName? := ofMethod?
  ofName?_eq_some_iff := ofMethod?_eq_some_iff

/-- The record of the fields of an operation. -/
abbrev Kind.Fields : Kind → Type
  | .addColumn | .alterColumn => Column
  | .addForeignKey => ForeignKey
  | .addPrimaryKey | .addUniqueConstraint => Key
  | .alterSequence => SequenceChange
  | .createIndex => Index
  | .createSchema | .dropSchema => SchemaName
  | .createSequence => Sequence
  | .createTable => Table
  | .dropColumn | .dropForeignKey | .dropIndex | .dropPrimaryKey | .dropUniqueConstraint =>
    TableMember
  | .dropSequence | .dropTable => SchemaObject
  | .renameColumn | .renameIndex => MemberRename
  | .renameSequence | .renameTable => ObjectRename
  | .restartSequence => SequenceRestart
  | .sql => SqlText

namespace Operation

def ofFields : (kind : Kind) → kind.Fields → Operation
  | .addColumn => .addColumn
  | .addForeignKey => .addForeignKey
  | .addPrimaryKey => .addPrimaryKey
  | .addUniqueConstraint => .addUniqueConstraint
  | .alterColumn => .alterColumn
  | .alterSequence => .alterSequence
  | .createIndex => .createIndex
  | .createSchema => .createSchema
  | .createSequence => .createSequence
  | .createTable => .createTable
  | .dropColumn => .dropColumn
  | .dropForeignKey => .dropForeignKey
  | .dropIndex => .dropIndex
  | .dropPrimaryKey => .dropPrimaryKey
  | .dropSchema => .dropSchema
  | .dropSequence => .dropSequence
  | .dropTable => .dropTable
  | .dropUniqueConstraint => .dropUniqueConstraint
  | .renameColumn => .renameColumn
  | .renameIndex => .renameIndex
  | .renameSequence => .renameSequence
  | .renameTable => .renameTable
  | .restartSequence => .restartSequence
  | .sql => .sql

def fields : Operation → (kind : Kind) × kind.Fields
  | .addColumn column => ⟨.addColumn, column⟩
  | .addForeignKey key => ⟨.addForeignKey, key⟩
  | .addPrimaryKey key => ⟨.addPrimaryKey, key⟩
  | .addUniqueConstraint key => ⟨.addUniqueConstraint, key⟩
  | .alterColumn column => ⟨.alterColumn, column⟩
  | .alterSequence change => ⟨.alterSequence, change⟩
  | .createIndex index => ⟨.createIndex, index⟩
  | .createSchema schema => ⟨.createSchema, schema⟩
  | .createSequence sequence => ⟨.createSequence, sequence⟩
  | .createTable table => ⟨.createTable, table⟩
  | .dropColumn member => ⟨.dropColumn, member⟩
  | .dropForeignKey member => ⟨.dropForeignKey, member⟩
  | .dropIndex member => ⟨.dropIndex, member⟩
  | .dropPrimaryKey member => ⟨.dropPrimaryKey, member⟩
  | .dropSchema schema => ⟨.dropSchema, schema⟩
  | .dropSequence object => ⟨.dropSequence, object⟩
  | .dropTable object => ⟨.dropTable, object⟩
  | .dropUniqueConstraint member => ⟨.dropUniqueConstraint, member⟩
  | .renameColumn rename => ⟨.renameColumn, rename⟩
  | .renameIndex rename => ⟨.renameIndex, rename⟩
  | .renameSequence rename => ⟨.renameSequence, rename⟩
  | .renameTable rename => ⟨.renameTable, rename⟩
  | .restartSequence restart => ⟨.restartSequence, restart⟩
  | .sql statement => ⟨.sql, statement⟩

end Operation

namespace Derive

variable (derive : Derive)

def fields : (kind : Kind) → Record kind.Fields
  | .addColumn | .alterColumn => derive.column
  | .addForeignKey => derive.foreignKey
  | .addPrimaryKey | .addUniqueConstraint => derive.key
  | .alterSequence => derive.sequenceChange
  | .createIndex => derive.index
  | .createSchema | .dropSchema => derive.schemaName
  | .createSequence => derive.sequence
  | .createTable => derive.table
  | .dropColumn | .dropForeignKey | .dropIndex | .dropPrimaryKey | .dropUniqueConstraint =>
    derive.tableMember
  | .dropSequence | .dropTable => derive.schemaObject
  | .renameColumn | .renameIndex => derive.memberRename
  | .renameSequence | .renameTable => derive.objectRename
  | .restartSequence => derive.sequenceRestart
  | .sql => derive.sqlText

def operationVariants : Variants Operation where
  tags := Kind.units
  Content := Kind.Fields
  codec kind := derive.record (derive.fields kind)
  wrap := Operation.ofFields
  split := Operation.fields
  wrap_split operation := by cases operation <;> rfl
  split_wrap kind fields := by cases kind <;> rfl

/-- Operations as the objects of their fields, with their kind. -/
def operation : Codec Operation :=
  derive.internal "kind" derive.operationVariants

end Derive

/-! ### The exchange that runs -/

def actionCodec : Codec ReferentialAction :=
  Derive.standard.action

def defaultCodec : Codec DefaultValue :=
  Derive.standard.defaultValue

namespace Operation

def codec : Codec Operation :=
  Derive.standard.operation

def encode (operation : Operation) : Json :=
  codec.encode operation

end Operation

def writeOperations (operations : List Operation) : String :=
  TextFormat.standard.write Operation.codec.list operations

def readOperations? (text : String) : Option (List Operation) :=
  TextFormat.standard.read Operation.codec.list text

end MigrationScript
