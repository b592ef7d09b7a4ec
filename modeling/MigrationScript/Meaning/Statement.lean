import MigrationScript.Meaning.Table

namespace MigrationScript

namespace Bound

def toColumn (bound : Bound) (schema : Option String) : Except ScriptError Column := do
  let name ← bound.required Expr.toText "name"
  let table ← bound.required Expr.toText "table"
  let type ← bound.required Expr.toText "type"
  bound.columnOptions { name, schema, table, type }

def toForeignKey (bound : Bound) (schema : Option String) : Except ScriptError ForeignKey := do
  let name ← bound.required Expr.toText "name"
  let table ← bound.required Expr.toText "table"
  let columns ← bound.requiredColumns "column" "columns"
  bound.reference { name, schema, table, columns }

def toKey (bound : Bound) (schema : Option String) : Except ScriptError Key := do
  let name ← bound.required Expr.toText "name"
  let table ← bound.required Expr.toText "table"
  let columns ← bound.requiredColumns "column" "columns"
  return { name, schema, table, columns }

def toIndex (bound : Bound) (schema : Option String) : Except ScriptError Index := do
  let key ← bound.toKey schema
  let isUnique := (← bound.optional Expr.toBool "unique").getD false
  return { key with isUnique }

def toSequenceChange (bound : Bound) (schema : Option String) :
    Except ScriptError SequenceChange := do
  let name ← bound.required Expr.toText "name"
  let incrementBy ← bound.optional Expr.toInt "incrementBy"
  let minValue ← bound.optional Expr.toLong "minValue"
  let maxValue ← bound.optional Expr.toLong "maxValue"
  let cycle := (← bound.optional Expr.toBool "cycle").getD false
  return { name, schema, incrementBy, minValue, maxValue, cycle }

def toSequence (bound : Bound) (schema : Option String) : Except ScriptError Sequence := do
  let name ← bound.required Expr.toText "name"
  let type ← bound.optional Expr.toText "type"
  let startWith ← bound.optional Expr.toLong "startWith"
  let incrementBy ← bound.optional Expr.toInt "incrementBy"
  let minValue ← bound.optional Expr.toLong "minValue"
  let maxValue ← bound.optional Expr.toLong "maxValue"
  let cycle := (← bound.optional Expr.toBool "cycle").getD false
  return { name, schema, type, startWith, incrementBy, minValue, maxValue, cycle }

def toTableMember (bound : Bound) (schema : Option String) : Except ScriptError TableMember := do
  let name ← bound.required Expr.toText "name"
  let table ← bound.required Expr.toText "table"
  return { name, schema, table }

def toSchemaObject (bound : Bound) (schema : Option String) :
    Except ScriptError SchemaObject := do
  let name ← bound.required Expr.toText "name"
  return { name, schema }

def toSchemaName (bound : Bound) : Except ScriptError SchemaName := do
  let name ← bound.required Expr.toText "name"
  return { name }

def toMemberRename (bound : Bound) (schema : Option String) :
    Except ScriptError MemberRename := do
  let name ← bound.required Expr.toText "name"
  let table ← bound.required Expr.toText "table"
  let newName ← bound.required Expr.toText "newName"
  return { name, schema, table, newName }

def toObjectRename (bound : Bound) (schema : Option String) :
    Except ScriptError ObjectRename := do
  let name ← bound.required Expr.toText "name"
  let newName ← bound.optional Expr.toText "newName"
  let newSchema ← bound.optional Expr.toText "newSchema"
  return { name, schema, newName, newSchema }

def toSequenceRestart (bound : Bound) (schema : Option String) :
    Except ScriptError SequenceRestart := do
  let name ← bound.required Expr.toText "name"
  let restartWith ← bound.required Expr.toLong "with"
  return { name, schema, restartWith }

def toSqlText (bound : Bound) : Except ScriptError SqlText := do
  let sql ← bound.required Expr.toText "sql"
  let suppressTransaction := (← bound.optional Expr.toBool "suppressTransaction").getD false
  return { sql, suppressTransaction }

def toOperation (bound : Bound) (kind : Kind) : Except ScriptError Operation := do
  let schema ← bound.optional Expr.toText "schema"
  match kind with
  | .addColumn => return .addColumn (← bound.toColumn schema)
  | .addForeignKey => return .addForeignKey (← bound.toForeignKey schema)
  | .addPrimaryKey => return .addPrimaryKey (← bound.toKey schema)
  | .addUniqueConstraint => return .addUniqueConstraint (← bound.toKey schema)
  | .alterColumn => return .alterColumn (← bound.toColumn schema)
  | .alterSequence => return .alterSequence (← bound.toSequenceChange schema)
  | .createIndex => return .createIndex (← bound.toIndex schema)
  | .createSchema => return .createSchema (← bound.toSchemaName)
  | .createSequence => return .createSequence (← bound.toSequence schema)
  | .createTable => return .createTable (← Table.ofBound bound)
  | .dropColumn => return .dropColumn (← bound.toTableMember schema)
  | .dropForeignKey => return .dropForeignKey (← bound.toTableMember schema)
  | .dropIndex => return .dropIndex (← bound.toTableMember schema)
  | .dropPrimaryKey => return .dropPrimaryKey (← bound.toTableMember schema)
  | .dropSchema => return .dropSchema (← bound.toSchemaName)
  | .dropSequence => return .dropSequence (← bound.toSchemaObject schema)
  | .dropTable => return .dropTable (← bound.toSchemaObject schema)
  | .dropUniqueConstraint => return .dropUniqueConstraint (← bound.toTableMember schema)
  | .renameColumn => return .renameColumn (← bound.toMemberRename schema)
  | .renameIndex => return .renameIndex (← bound.toMemberRename schema)
  | .renameSequence => return .renameSequence (← bound.toObjectRename schema)
  | .renameTable => return .renameTable (← bound.toObjectRename schema)
  | .restartSequence => return .restartSequence (← bound.toSequenceRestart schema)
  | .sql => return .sql (← bound.toSqlText)

end Bound

/-- The operation that a statement records: a call of the method of a kind on the builder. -/
def Call.operation (builder : String) (call : Call) : Except ScriptError Operation := do
  call.addresses builder
  match Kind.ofMethod? call.method with
  | some kind => (← Bound.ofCall call kind.parameters).toOperation kind
  | none => call.unknownMethod

end MigrationScript
