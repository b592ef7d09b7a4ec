import MigrationScript.Operation.Basic

namespace MigrationScript

/-- A name behind its schema, if it has one. -/
def qualified (schema : Option String) (name : String) : String :=
  match schema with
  | some schema => s!"{schema}.{name}"
  | none => name

namespace Operation

/-- A part of a table, behind the table. -/
def insideTable (name : String) (schema : Option String) (table : String) : String :=
  s!"{qualified schema table}.{name}"

/-- A constraint or an index, and the table it is on. -/
def onTable (name : String) (schema : Option String) (table : String) : String :=
  s!"{name} on {qualified schema table}"

/-- An object before and after; what is not given stays. -/
def moved (rename : ObjectRename) : String :=
  let target := qualified (rename.newSchema.or rename.schema) (rename.newName.getD rename.name)
  s!"{qualified rename.schema rename.name} -> {target}"

def subject : Operation → String
  | .addColumn column | .alterColumn column => insideTable column.name column.schema column.table
  | .dropColumn member => insideTable member.name member.schema member.table
  | .addForeignKey key =>
    s!"{key.name} {qualified key.schema key.table}" ++
      s!" -> {qualified key.referencedSchema key.referencedTable}"
  | .addPrimaryKey key | .addUniqueConstraint key => onTable key.name key.schema key.table
  | .createIndex index => onTable index.name index.schema index.table
  | .dropForeignKey member | .dropIndex member | .dropPrimaryKey member
  | .dropUniqueConstraint member => onTable member.name member.schema member.table
  | .alterSequence change => qualified change.schema change.name
  | .createSequence sequence => qualified sequence.schema sequence.name
  | .createTable table => qualified table.schema table.name
  | .dropSequence object | .dropTable object => qualified object.schema object.name
  | .restartSequence restart => qualified restart.schema restart.name
  | .createSchema schema | .dropSchema schema => schema.name
  | .renameColumn rename | .renameIndex rename =>
    s!"{insideTable rename.name rename.schema rename.table} -> {rename.newName}"
  | .renameSequence rename | .renameTable rename => moved rename
  | .sql _ => "..."

def summary (operation : Operation) : String :=
  s!"{operation.kind.method}({operation.subject})"

end Operation

end MigrationScript
