import MigrationScript.Script.Call

namespace MigrationScript

open WrittenArgument

/-- The declaration of a column; its name is given only if its identifier does not tell it. -/
def Column.declaration (column : Column) : List Char :=
  let name :=
    if Identifier.derive column.name = column.name then [] else string "name" column.name
  let arguments := name ++ string "type" column.type ++ column.options
  columnIdentifier column.name ++ " = table.Column(".toList ++
    Literal.joined (texts .named arguments) ++ [')']

/-- The declaration of a primary key or a unique constraint. -/
def Key.declaration (method : String) (key : Key) : List Char :=
  "table.".toList ++ method.toList ++ '(' :: Literal.string key.name ++ [',', ' '] ++
    selector key.columns ++ ");".toList

def ForeignKey.steps (key : ForeignKey) : List Step :=
  callSteps "table" ⟨"ForeignKey", .block, .named⟩
    (string "name" key.name ++ ⟨"columns", .selector key.columns⟩ :: key.reference)

namespace Table

def columnSteps (table : Table) : List Step :=
  (terminated [','] [] (table.columns.map (·.declaration))).map .line

def constraintSteps (table : Table) : List Step :=
  table.primaryKey.toList.map (fun key => .line (key.declaration "PrimaryKey")) ++
    table.foreignKeys.flatMap (·.steps) ++
    table.uniqueConstraints.map (fun key => .line (key.declaration "Unique"))

/-- Writes the call that declares a table. -/
def steps (builder : String) (table : Table) : List Step :=
  let head := (string "name" table.name ++ optionalString "schema" table.schema).map (·.text)
  [.line (builder.toList ++ '.' :: Kind.createTable.method.toList ++ ['(']), .indent] ++
    head.map (fun text => .line (text ++ [','])) ++
    [.line "columns: table => new".toList, .line ['\x7b'], .indent] ++
    table.columnSteps ++
    [.dedent, .line ['\x7d', ','], .line "constraints: table =>".toList, .line ['\x7b'],
      .indent] ++
    table.constraintSteps ++
    [.dedent, .line "\x7d);".toList, .dedent]

end Table

end MigrationScript
