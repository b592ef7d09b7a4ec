import MigrationScript.Identifier
import MigrationScript.Operation.Basic

/-!
# Faults of operations

What an operation needs before it can be written: its names are there, and a table and what is
declared in it fit together. Of several things that are wrong the first in a fixed order is
reported.
-/

namespace MigrationScript

/-- Why an operation cannot be written. The kind is that of the part at fault. -/
inductive Fault
  | missingField (kind : Kind) (field : String)
  | emptyField (kind : Kind) (field : String)
  | conflictingDefault (kind : Kind) (column : String)
  | identifierCollision (table identifier first second : String)
  | unknownColumn (kind : Kind) (table column : String)
  | parentMismatch (kind : Kind) (field table : String)
  deriving DecidableEq

namespace Fault

def message : Fault → String
  | .missingField kind field => s!"{kind.method}: required field '{field}' is empty"
  | .emptyField kind field => s!"{kind.method}: field '{field}' is set to an empty string"
  | .conflictingDefault kind column =>
    s!"{kind.method}: column '{column}' has both a default value and a default expression"
  | .identifierCollision table identifier first second =>
    s!"Columns '{first}' and '{second}' of table '{table}' both map to identifier '{identifier}'"
  | .unknownColumn kind table column =>
    s!"{kind.method}: column '{column}' is not declared by table '{table}'"
  | .parentMismatch kind field table =>
    s!"{kind.method}: field '{field}' does not match table '{table}'"

def ifMissing (kind : Kind) (field text : String) : Option Fault :=
  if text = "" then some (.missingField kind field) else none

/-- A name that may be absent but not empty. -/
def ifEmpty (kind : Kind) (field : String) (text : Option String) : Option Fault :=
  if text = some "" then some (.emptyField kind field) else none

def ifNoColumns (kind : Kind) {α : Type} (columns : List α) : Option Fault :=
  if columns.isEmpty then some (.missingField kind "columns") else none

def first (found : List (Option Fault)) : Option Fault :=
  found.findSome? id

end Fault

open Fault

def Column.definitionFaults (kind : Kind) (column : Column) : List (Option Fault) :=
  [ifMissing kind "name" column.name, ifMissing kind "type" column.type,
    if column.defaultValue.isSome && column.defaultExpression.isSome then
      some (.conflictingDefault kind column.name)
    else none]

namespace Table

/-- A part that is declared in a table names another table or another schema. -/
def ifStray (table : Table) (kind : Kind) (name : String) (schema : Option String) :
    List (Option Fault) :=
  [if name ≠ table.name then some (.parentMismatch kind "table" table.name) else none,
    if schema ≠ table.schema then some (.parentMismatch kind "schema" table.name) else none]

/-- A column that a constraint selects and the table does not declare. -/
def ifUndeclared (table : Table) (kind : Kind) (selected : List String) : Option Fault :=
  (selected.find? fun column => !table.columns.any (·.name == column)).map
    (.unknownColumn kind table.name)

/-- A column whose identifier is that of an earlier one. -/
def ifCollision (table : Table) (earlier : List Column) (column : Column) : Option Fault :=
  let identifier := Identifier.derive column.name
  (earlier.find? fun first => Identifier.derive first.name == identifier).map fun first =>
    .identifierCollision table.name identifier first.name column.name

/-- What is wrong with the columns behind those that are checked. -/
def columnFaults (table : Table) (earlier : List Column) : List Column → List (Option Fault)
  | [] => []
  | column :: rest =>
    table.ifStray .addColumn column.table column.schema ++ column.definitionFaults .addColumn ++
      table.ifCollision earlier column :: table.columnFaults (earlier ++ [column]) rest

def keyFaults (table : Table) (kind : Kind) (key : Key) : List (Option Fault) :=
  table.ifStray kind key.table key.schema ++
    [ifMissing kind "name" key.name, ifNoColumns kind key.columns,
      table.ifUndeclared kind key.columns]

def foreignKeyFaults (table : Table) (key : ForeignKey) : List (Option Fault) :=
  let kind : Kind := .addForeignKey
  table.ifStray kind key.table key.schema ++
    [ifMissing kind "name" key.name, ifNoColumns kind key.columns,
      table.ifUndeclared kind key.columns, ifEmpty kind "referencedSchema" key.referencedSchema,
      ifMissing kind "referencedTable" key.referencedTable]

def faults (table : Table) : List (Option Fault) :=
  let kind : Kind := .createTable
  [ifMissing kind "name" table.name, ifEmpty kind "schema" table.schema,
    ifNoColumns kind table.columns] ++
    table.columnFaults [] table.columns ++
    table.primaryKey.toList.flatMap (table.keyFaults .addPrimaryKey) ++
    table.foreignKeys.flatMap table.foreignKeyFaults ++
    table.uniqueConstraints.flatMap (table.keyFaults .addUniqueConstraint)

end Table

namespace Operation

/-- What is wrong with an operation, in the order in which it is looked for. -/
def faults (operation : Operation) : List (Option Fault) :=
  let kind := operation.kind
  let name (text : String) := ifMissing kind "name" text
  let schema (text : Option String) := ifEmpty kind "schema" text
  let table (text : String) := ifMissing kind "table" text
  match operation with
  | .addColumn column | .alterColumn column =>
    table column.table :: schema column.schema :: column.definitionFaults kind
  | .addForeignKey key =>
    [name key.name, schema key.schema, table key.table, ifNoColumns kind key.columns,
      ifEmpty kind "referencedSchema" key.referencedSchema,
      ifMissing kind "referencedTable" key.referencedTable]
  | .addPrimaryKey key | .addUniqueConstraint key =>
    [name key.name, schema key.schema, table key.table, ifNoColumns kind key.columns]
  | .createIndex index =>
    [name index.name, schema index.schema, table index.table, ifNoColumns kind index.columns]
  | .alterSequence change => [name change.name, schema change.schema]
  | .createSequence sequence =>
    [name sequence.name, schema sequence.schema, ifEmpty kind "type" sequence.type]
  | .createSchema created => [name created.name]
  | .dropSchema dropped => [name dropped.name]
  | .createTable created => created.faults
  | .dropColumn member | .dropForeignKey member | .dropIndex member | .dropPrimaryKey member
  | .dropUniqueConstraint member => [name member.name, schema member.schema, table member.table]
  | .dropSequence object | .dropTable object => [name object.name, schema object.schema]
  | .renameColumn rename | .renameIndex rename =>
    [name rename.name, schema rename.schema, table rename.table,
      ifMissing kind "newName" rename.newName]
  | .renameSequence rename | .renameTable rename =>
    [name rename.name, schema rename.schema, ifEmpty kind "newName" rename.newName,
      ifEmpty kind "newSchema" rename.newSchema]
  | .restartSequence restart => [name restart.name, schema restart.schema]
  | .sql statement => [ifMissing kind "sql" statement.sql]

def fault? (operation : Operation) : Option Fault :=
  first operation.faults

end Operation

def fault? (operations : List Operation) : Option Fault :=
  operations.findSome? (·.fault?)

end MigrationScript
