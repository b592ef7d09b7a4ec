import MigrationScript.Double.Text
import MigrationScript.Json.Basic
import MigrationScript.Text.Hex

namespace MigrationScript

namespace Json

def escapedChar (c : Char) : List Char :=
  if c = '"' then ['\\', '"']
  else if c = '\\' then ['\\', '\\']
  else if c = '\x08' then ['\\', 'b']
  else if c = '\x0c' then ['\\', 'f']
  else if c = '\n' then ['\\', 'n']
  else if c = '\r' then ['\\', 'r']
  else if c = '\t' then ['\\', 't']
  else if c.toNat < 0x20 then ['\\', 'u'] ++ hexDigits4 c.toNat
  else [c]

def stringText (text : String) : List Char :=
  '"' :: (text.toList.flatMap escapedChar ++ ['"'])

/-- A double; null for what is not a finite number. -/
def realText (value : Double) : List Char :=
  if value.isFinite then Double.finiteText Double.jsonStyle value else ['n', 'u', 'l', 'l']

def chars : Json → List Char
  | .null => ['n', 'u', 'l', 'l']
  | .bool true => ['t', 'r', 'u', 'e']
  | .bool false => ['f', 'a', 'l', 's', 'e']
  | .integer value => integerText value
  | .real value => realText value
  | .string value => stringText value
  | .array items => '[' :: ([','].intercalate (items.map chars) ++ [']'])
  | .object members =>
    '\x7b' :: ([','].intercalate (members.map fun member =>
      stringText member.1 ++ ':' :: chars member.2) ++ ['\x7d'])
decreasing_by
  · rename_i hmem
    have hlt := List.sizeOf_lt_of_mem hmem
    simp only [array.sizeOf_spec]
    omega
  · rename_i hmem
    have hlt := List.sizeOf_lt_of_mem hmem
    obtain ⟨name, value⟩ := member
    simp only [object.sizeOf_spec, Prod.mk.sizeOf_spec] at hlt ⊢
    omega

def text (value : Json) : String :=
  .ofList value.chars

end Json

end MigrationScript
