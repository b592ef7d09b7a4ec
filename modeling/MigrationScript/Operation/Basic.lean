import MigrationScript.Operation.Kind
import MigrationScript.Operation.Value

/-!
# Schema operations

Operations with the same fields share one record, and a table owns its columns and constraints as
records of the same shape. So what is read, written or checked for a record is said once.
-/

namespace MigrationScript

/-- A column of a table: its definition as it is added or after it is altered. -/
structure Column where
  name : String := ""
  schema : Option String := none
  table : String := ""
  type : String := ""
  isNullable : Bool := false
  defaultValue : Option DefaultValue := none
  defaultExpression : Option String := none
  deriving DecidableEq

instance : Inhabited Column := ⟨{}⟩

/-- A primary key or a unique constraint. -/
structure Key where
  name : String := ""
  schema : Option String := none
  table : String := ""
  columns : List String := []
  deriving DecidableEq

instance : Inhabited Key := ⟨{}⟩

/-- A foreign key; without referenced columns it references the primary key. -/
structure ForeignKey where
  name : String := ""
  schema : Option String := none
  table : String := ""
  columns : List String := []
  referencedSchema : Option String := none
  referencedTable : String := ""
  referencedColumns : List String := []
  onUpdate : ReferentialAction := .noAction
  onDelete : ReferentialAction := .noAction
  deriving DecidableEq

instance : Inhabited ForeignKey := ⟨{}⟩

structure Index where
  name : String := ""
  schema : Option String := none
  table : String := ""
  columns : List String := []
  isUnique : Bool := false
  deriving DecidableEq

instance : Inhabited Index := ⟨{}⟩

structure SequenceChange where
  name : String := ""
  schema : Option String := none
  incrementBy : Option Int32 := none
  minValue : Option Int64 := none
  maxValue : Option Int64 := none
  cycle : Bool := false
  deriving DecidableEq

instance : Inhabited SequenceChange := ⟨{}⟩

structure Sequence where
  name : String := ""
  schema : Option String := none
  type : Option String := none
  startWith : Option Int64 := none
  incrementBy : Option Int32 := none
  minValue : Option Int64 := none
  maxValue : Option Int64 := none
  cycle : Bool := false
  deriving DecidableEq

instance : Inhabited Sequence := ⟨{}⟩

structure Table where
  name : String := ""
  schema : Option String := none
  columns : List Column := []
  primaryKey : Option Key := none
  foreignKeys : List ForeignKey := []
  uniqueConstraints : List Key := []
  deriving DecidableEq

instance : Inhabited Table := ⟨{}⟩

structure TableMember where
  name : String := ""
  schema : Option String := none
  table : String := ""
  deriving DecidableEq

instance : Inhabited TableMember := ⟨{}⟩

structure SchemaObject where
  name : String := ""
  schema : Option String := none
  deriving DecidableEq

instance : Inhabited SchemaObject := ⟨{}⟩

structure SchemaName where
  name : String := ""
  deriving DecidableEq

instance : Inhabited SchemaName := ⟨{}⟩

structure MemberRename where
  name : String := ""
  schema : Option String := none
  table : String := ""
  newName : String := ""
  deriving DecidableEq

instance : Inhabited MemberRename := ⟨{}⟩

/-- A new name or a new schema, or both, for a part of a schema. -/
structure ObjectRename where
  name : String := ""
  schema : Option String := none
  newName : Option String := none
  newSchema : Option String := none
  deriving DecidableEq

instance : Inhabited ObjectRename := ⟨{}⟩

structure SequenceRestart where
  name : String := ""
  schema : Option String := none
  restartWith : Int64 := 0
  deriving DecidableEq

instance : Inhabited SequenceRestart := ⟨{}⟩

/-- A statement of SQL, run inside the transaction of the migration unless that is suppressed. -/
structure SqlText where
  sql : String := ""
  suppressTransaction : Bool := false
  deriving DecidableEq

instance : Inhabited SqlText := ⟨{}⟩

inductive Operation
  | addColumn (column : Column)
  | addForeignKey (key : ForeignKey)
  | addPrimaryKey (key : Key)
  | addUniqueConstraint (key : Key)
  | alterColumn (column : Column)
  | alterSequence (change : SequenceChange)
  | createIndex (index : Index)
  | createSchema (schema : SchemaName)
  | createSequence (sequence : Sequence)
  | createTable (table : Table)
  | dropColumn (member : TableMember)
  | dropForeignKey (member : TableMember)
  | dropIndex (member : TableMember)
  | dropPrimaryKey (member : TableMember)
  | dropSchema (schema : SchemaName)
  | dropSequence (object : SchemaObject)
  | dropTable (object : SchemaObject)
  | dropUniqueConstraint (member : TableMember)
  | renameColumn (rename : MemberRename)
  | renameIndex (rename : MemberRename)
  | renameSequence (rename : ObjectRename)
  | renameTable (rename : ObjectRename)
  | restartSequence (restart : SequenceRestart)
  | sql (statement : SqlText)
  deriving DecidableEq

namespace Operation

def kind : Operation → Kind
  | .addColumn _ => .addColumn
  | .addForeignKey _ => .addForeignKey
  | .addPrimaryKey _ => .addPrimaryKey
  | .addUniqueConstraint _ => .addUniqueConstraint
  | .alterColumn _ => .alterColumn
  | .alterSequence _ => .alterSequence
  | .createIndex _ => .createIndex
  | .createSchema _ => .createSchema
  | .createSequence _ => .createSequence
  | .createTable _ => .createTable
  | .dropColumn _ => .dropColumn
  | .dropForeignKey _ => .dropForeignKey
  | .dropIndex _ => .dropIndex
  | .dropPrimaryKey _ => .dropPrimaryKey
  | .dropSchema _ => .dropSchema
  | .dropSequence _ => .dropSequence
  | .dropTable _ => .dropTable
  | .dropUniqueConstraint _ => .dropUniqueConstraint
  | .renameColumn _ => .renameColumn
  | .renameIndex _ => .renameIndex
  | .renameSequence _ => .renameSequence
  | .renameTable _ => .renameTable
  | .restartSequence _ => .restartSequence
  | .sql _ => .sql

end Operation

end MigrationScript
