import MigrationScript.Identifier
import MigrationScript.Operation.Basic
import MigrationScript.Script.Literal
import MigrationScript.Script.Shape
import MigrationScript.Script.Writer

namespace MigrationScript

def columnIdentifier (name : String) : List Char :=
  (Identifier.render (Identifier.derive name)).toList

def selector (columns : List String) : List Char :=
  match columns.map fun column => 'x' :: '.' :: columnIdentifier column with
  | [selected] => "x => ".toList ++ selected
  | selected => "x => new \x7b ".toList ++ Literal.joined selected ++ " \x7d".toList

/-- The value of an argument as it is given: a constant, an action, texts, or the columns that a
function selects. -/
inductive WrittenValue
  | constant (value : DefaultValue)
  | action (action : ReferentialAction)
  | strings (texts : List String)
  | selector (columns : List String)

def WrittenValue.text : WrittenValue → List Char
  | .constant value => Literal.defaultValue value
  | .action value => Literal.action value
  | .strings texts => Literal.strings texts
  | .selector columns => MigrationScript.selector columns

/-- An argument as it is written: the name of its parameter and its value. -/
structure WrittenArgument where
  name : String
  value : WrittenValue

namespace WrittenArgument

def text (argument : WrittenArgument) : List Char :=
  argument.name.toList ++ [':', ' '] ++ argument.value.text

/-- The arguments of a call, of which a single one may go without its name. -/
def texts (naming : Naming) (arguments : List WrittenArgument) : List (List Char) :=
  match naming, arguments with
  | .positionalWhenAlone, [argument] => [argument.value.text]
  | _, arguments => arguments.map text

def constant (name : String) (value : DefaultValue) : List WrittenArgument :=
  [⟨name, .constant value⟩]

def string (name text : String) : List WrittenArgument :=
  constant name (.string text)

def optional {α : Type} (name : String) (write : α → DefaultValue) (value : Option α) :
    List WrittenArgument :=
  value.toList.map fun value => ⟨name, .constant (write value)⟩

def optionalString (name : String) (text : Option String) : List WrittenArgument :=
  optional name .string text

def flag (name : String) (value : Bool) : List WrittenArgument :=
  if value then constant name (.bool true) else []

/-- An argument for an action other than none. -/
def action (name : String) (action : ReferentialAction) : List WrittenArgument :=
  if action = .noAction then [] else [⟨name, .action action⟩]

/-- An argument for columns: under one name for one, under another for several, none for none. -/
def columns (singular plural : String) (columns : List String) : List WrittenArgument :=
  match columns with
  | [] => []
  | [column] => string singular column
  | columns => [⟨plural, .strings columns⟩]

end WrittenArgument

open WrittenArgument

def Column.options (column : Column) : List WrittenArgument :=
  constant "nullable" (.bool column.isNullable) ++
    optional "defaultValue" id column.defaultValue ++
    optionalString "defaultExpression" column.defaultExpression

def ForeignKey.reference (key : ForeignKey) : List WrittenArgument :=
  optionalString "referencedSchema" key.referencedSchema ++
    string "referencedTable" key.referencedTable ++
    WrittenArgument.columns "referencedColumn" "referencedColumns" key.referencedColumns ++
    action "onUpdate" key.onUpdate ++ action "onDelete" key.onDelete

namespace Operation

/-- The arguments of an operation that is written as one call without further declarations. -/
def writtenArguments : Operation → List WrittenArgument
  | .addColumn column | .alterColumn column =>
    string "name" column.name ++ optionalString "schema" column.schema ++
      string "table" column.table ++ string "type" column.type ++ column.options
  | .addForeignKey key =>
    string "name" key.name ++ optionalString "schema" key.schema ++ string "table" key.table ++
      columns "column" "columns" key.columns ++ key.reference
  | .addPrimaryKey key | .addUniqueConstraint key =>
    string "name" key.name ++ optionalString "schema" key.schema ++ string "table" key.table ++
      columns "column" "columns" key.columns
  | .createIndex index =>
    string "name" index.name ++ optionalString "schema" index.schema ++
      string "table" index.table ++ columns "column" "columns" index.columns ++
      flag "unique" index.isUnique
  | .alterSequence change =>
    string "name" change.name ++ optionalString "schema" change.schema ++
      optional "incrementBy" .int change.incrementBy ++
      optional "minValue" .long change.minValue ++
      optional "maxValue" .long change.maxValue ++ flag "cycle" change.cycle
  | .createSequence sequence =>
    string "name" sequence.name ++ optionalString "schema" sequence.schema ++
      optionalString "type" sequence.type ++
      optional "startWith" .long sequence.startWith ++
      optional "incrementBy" .int sequence.incrementBy ++
      optional "minValue" .long sequence.minValue ++
      optional "maxValue" .long sequence.maxValue ++ flag "cycle" sequence.cycle
  | .createSchema schema | .dropSchema schema => string "name" schema.name
  | .dropColumn member | .dropForeignKey member | .dropIndex member | .dropPrimaryKey member
  | .dropUniqueConstraint member =>
    string "name" member.name ++ optionalString "schema" member.schema ++
      string "table" member.table
  | .dropSequence object | .dropTable object =>
    string "name" object.name ++ optionalString "schema" object.schema
  | .renameColumn rename | .renameIndex rename =>
    string "name" rename.name ++ optionalString "schema" rename.schema ++
      string "table" rename.table ++ string "newName" rename.newName
  | .renameSequence rename | .renameTable rename =>
    string "name" rename.name ++ optionalString "schema" rename.schema ++
      optionalString "newName" rename.newName ++ optionalString "newSchema" rename.newSchema
  | .restartSequence restart =>
    string "name" restart.name ++ optionalString "schema" restart.schema ++
      constant "with" (.long restart.restartWith)
  | .sql statement =>
    string "sql" statement.sql ++ flag "suppressTransaction" statement.suppressTransaction
  | .createTable _ => []

end Operation

/-- Puts one text behind each but the last, and another behind the last. -/
def terminated (between last : List Char) : List (List Char) → List (List Char)
  | [] => []
  | [text] => [text ++ last]
  | text :: rest => (text ++ between) :: terminated between last rest

/-- Writes a call. -/
def callSteps (target : String) (shape : CallShape) (arguments : List WrittenArgument) :
    List Step :=
  let head := target.toList ++ '.' :: shape.method.toList ++ ['(']
  let texts := texts shape.naming arguments
  match shape.arrangement with
  | .inline => [.line (head ++ Literal.joined texts ++ ");".toList)]
  | .block =>
    [.line head, .indent] ++ (terminated [','] ");".toList texts).map .line ++ [.dedent]

end MigrationScript
