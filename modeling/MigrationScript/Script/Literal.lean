import MigrationScript.Double.Text
import MigrationScript.Operation.Value
import MigrationScript.Text.Blank
import MigrationScript.Text.Hex
import MigrationScript.Text.Integer

namespace MigrationScript

namespace Literal

/-- One character inside the quotes: as it is, or by an escape if it would end the string or is a
control character. -/
def char (c : Char) : List Char :=
  if c = '"' then ['\\', '"']
  else if c = '\\' then ['\\', '\\']
  else if c = '\n' then ['\\', 'n']
  else if c = '\r' then ['\\', 'r']
  else if c = '\t' then ['\\', 't']
  else if c = '\x00' then ['\\', '0']
  else if isControl c then '\\' :: 'u' :: (hexDigits4 c.toNat).map Char.toUpper
  else [c]

def string (text : String) : List Char :=
  '"' :: text.toList.flatMap char ++ ['"']

def int (value : Int32) : List Char :=
  integerText value.toInt

def long (value : Int64) : List Char :=
  integerText value.toInt ++ ['L']

def double (value : Double) : List Char :=
  if value.isNaN then "double.NaN".toList
  else if value.isInfinite then
    if value.isNegative then "double.NegativeInfinity".toList
    else "double.PositiveInfinity".toList
  else value.finiteText Double.scriptStyle

def bool (value : Bool) : List Char :=
  if value then "true".toList else "false".toList

def action (action : ReferentialAction) : List Char :=
  "ReferentialAction.".toList ++ action.name.toList

def defaultValue : DefaultValue → List Char
  | .bool value => bool value
  | .int value => int value
  | .long value => long value
  | .double value => double value
  | .string value => string value

def joined (texts : List (List Char)) : List Char :=
  [',', ' '].intercalate texts

def strings (texts : List String) : List Char :=
  "new[] \x7b ".toList ++ joined (texts.map string) ++ " \x7d".toList

end Literal

end MigrationScript
