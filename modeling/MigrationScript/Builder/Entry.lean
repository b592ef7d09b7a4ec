import MigrationScript.Operation.Basic

namespace MigrationScript

inductive Entry
  | addColumn (name table type : String)
  | addForeignKey (name table : String) (columns : List String) (referencedTable : String)
  | addPrimaryKey (name table : String) (columns : List String)
  | addUniqueConstraint (name table : String) (columns : List String)
  | alterColumn (name table type : String)
  | alterSequence (name : String)
  | createIndex (name table : String) (columns : List String)
  | createSchema (name : String)
  | createSequence (name : String)
  | createTable (name : String)
  | dropColumn (name table : String)
  | dropForeignKey (name table : String)
  | dropIndex (name table : String)
  | dropPrimaryKey (name table : String)
  | dropSchema (name : String)
  | dropSequence (name : String)
  | dropTable (name : String)
  | dropUniqueConstraint (name table : String)
  | renameColumn (name table newName : String)
  | renameIndex (name table newName : String)
  | renameSequence (name : String)
  | renameTable (name : String)
  | restartSequence (name : String) (restartWith : Int64)
  | sql (text : String)

def Entry.operation : Entry → Operation
  | .addColumn name table type => .addColumn { name, table, type }
  | .addForeignKey name table columns referencedTable =>
    .addForeignKey { name, table, columns, referencedTable }
  | .addPrimaryKey name table columns => .addPrimaryKey { name, table, columns }
  | .addUniqueConstraint name table columns => .addUniqueConstraint { name, table, columns }
  | .alterColumn name table type => .alterColumn { name, table, type }
  | .alterSequence name => .alterSequence { name }
  | .createIndex name table columns => .createIndex { name, table, columns }
  | .createSchema name => .createSchema { name }
  | .createSequence name => .createSequence { name }
  | .createTable name => .createTable { name }
  | .dropColumn name table => .dropColumn { name, table }
  | .dropForeignKey name table => .dropForeignKey { name, table }
  | .dropIndex name table => .dropIndex { name, table }
  | .dropPrimaryKey name table => .dropPrimaryKey { name, table }
  | .dropSchema name => .dropSchema { name }
  | .dropSequence name => .dropSequence { name }
  | .dropTable name => .dropTable { name }
  | .dropUniqueConstraint name table => .dropUniqueConstraint { name, table }
  | .renameColumn name table newName => .renameColumn { name, table, newName }
  | .renameIndex name table newName => .renameIndex { name, table, newName }
  | .renameSequence name => .renameSequence { name }
  | .renameTable name => .renameTable { name }
  | .restartSequence name restartWith => .restartSequence { name, restartWith }
  | .sql text => .sql { sql := text }

end MigrationScript
