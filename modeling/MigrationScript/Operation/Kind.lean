namespace MigrationScript

inductive Kind
  | addColumn
  | addForeignKey
  | addPrimaryKey
  | addUniqueConstraint
  | alterColumn
  | alterSequence
  | createIndex
  | createSchema
  | createSequence
  | createTable
  | dropColumn
  | dropForeignKey
  | dropIndex
  | dropPrimaryKey
  | dropSchema
  | dropSequence
  | dropTable
  | dropUniqueConstraint
  | renameColumn
  | renameIndex
  | renameSequence
  | renameTable
  | restartSequence
  | sql
  deriving DecidableEq, Repr, Inhabited

namespace Kind

/-- The method of the script that records an operation of the kind. -/
def method : Kind → String
  | .addColumn => "AddColumn"
  | .addForeignKey => "AddForeignKey"
  | .addPrimaryKey => "AddPrimaryKey"
  | .addUniqueConstraint => "AddUniqueConstraint"
  | .alterColumn => "AlterColumn"
  | .alterSequence => "AlterSequence"
  | .createIndex => "CreateIndex"
  | .createSchema => "CreateSchema"
  | .createSequence => "CreateSequence"
  | .createTable => "CreateTable"
  | .dropColumn => "DropColumn"
  | .dropForeignKey => "DropForeignKey"
  | .dropIndex => "DropIndex"
  | .dropPrimaryKey => "DropPrimaryKey"
  | .dropSchema => "DropSchema"
  | .dropSequence => "DropSequence"
  | .dropTable => "DropTable"
  | .dropUniqueConstraint => "DropUniqueConstraint"
  | .renameColumn => "RenameColumn"
  | .renameIndex => "RenameIndex"
  | .renameSequence => "RenameSequence"
  | .renameTable => "RenameTable"
  | .restartSequence => "RestartSequence"
  | .sql => "Sql"

/-- Every kind, in alphabetical order. -/
def all : List Kind :=
  [.addColumn, .addForeignKey, .addPrimaryKey, .addUniqueConstraint, .alterColumn,
    .alterSequence, .createIndex, .createSchema, .createSequence, .createTable, .dropColumn,
    .dropForeignKey, .dropIndex, .dropPrimaryKey, .dropSchema, .dropSequence, .dropTable,
    .dropUniqueConstraint, .renameColumn, .renameIndex, .renameSequence, .renameTable,
    .restartSequence, .sql]

def ofMethod? (name : String) : Option Kind :=
  all.find? fun kind => kind.method == name

theorem ofMethod?_method (kind : Kind) : ofMethod? kind.method = some kind := by
  cases kind <;> decide

theorem ofMethod?_eq_some_iff {name : String} {kind : Kind} :
    ofMethod? name = some kind ↔ kind.method = name := by
  constructor
  · intro h
    have := List.find?_some h
    exact beq_iff_eq.1 this
  · rintro rfl
    exact ofMethod?_method kind

end Kind

end MigrationScript
