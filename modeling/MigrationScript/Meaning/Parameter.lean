import MigrationScript.Operation.Kind

namespace MigrationScript

structure Parameter where
  name : String
  isRequired : Bool
  deriving DecidableEq

namespace Parameter

def required (name : String) : Parameter := ⟨name, true⟩

def optional (name : String) : Parameter := ⟨name, false⟩

/-- A column of a table that exists. -/
def column : List Parameter :=
  [required "name", optional "schema", required "table", required "type", optional "nullable",
    optional "defaultValue", optional "defaultExpression"]

def foreignKey : List Parameter :=
  [required "name", optional "schema", required "table", optional "column", optional "columns",
    optional "referencedSchema", required "referencedTable", optional "referencedColumn",
    optional "referencedColumns", optional "onUpdate", optional "onDelete"]

def key : List Parameter :=
  [required "name", optional "schema", required "table", optional "column", optional "columns"]

def index : List Parameter :=
  key ++ [optional "unique"]

def sequenceChange : List Parameter :=
  [required "name", optional "schema", optional "incrementBy", optional "minValue",
    optional "maxValue", optional "cycle"]

def sequence : List Parameter :=
  [required "name", optional "schema", optional "type", optional "startWith",
    optional "incrementBy", optional "minValue", optional "maxValue", optional "cycle"]

def table : List Parameter :=
  [required "name", optional "schema", required "columns", optional "constraints"]

def tableMember : List Parameter :=
  [required "name", optional "schema", required "table"]

def schemaObject : List Parameter :=
  [required "name", optional "schema"]

def memberRename : List Parameter :=
  [required "name", optional "schema", required "table", required "newName"]

def objectRename : List Parameter :=
  [required "name", optional "schema", optional "newName", optional "newSchema"]

def sequenceRestart : List Parameter :=
  [required "name", optional "schema", required "with"]

def declaredColumn : List Parameter :=
  [optional "name", required "type", optional "nullable", optional "defaultValue",
    optional "defaultExpression"]

/-- A primary key or a unique constraint declared in a table. -/
def declaredKey : List Parameter :=
  [required "name", required "columns"]

def declaredForeignKey : List Parameter :=
  [required "name", required "columns", optional "referencedSchema", required "referencedTable",
    optional "referencedColumn", optional "referencedColumns", optional "onUpdate",
    optional "onDelete"]

end Parameter

def Kind.parameters : Kind → List Parameter
  | .addColumn | .alterColumn => Parameter.column
  | .addForeignKey => Parameter.foreignKey
  | .addPrimaryKey | .addUniqueConstraint => Parameter.key
  | .alterSequence => Parameter.sequenceChange
  | .createIndex => Parameter.index
  | .createSchema | .dropSchema => [.required "name"]
  | .createSequence => Parameter.sequence
  | .createTable => Parameter.table
  | .dropColumn | .dropForeignKey | .dropIndex | .dropPrimaryKey | .dropUniqueConstraint =>
    Parameter.tableMember
  | .dropSequence | .dropTable => Parameter.schemaObject
  | .renameColumn | .renameIndex => Parameter.memberRename
  | .renameSequence | .renameTable => Parameter.objectRename
  | .restartSequence => Parameter.sequenceRestart
  | .sql => [.required "sql", .optional "suppressTransaction"]

theorem Kind.nodup_parameters (kind : Kind) : (kind.parameters.map (·.name)).Nodup := by
  cases kind <;> decide

end MigrationScript
