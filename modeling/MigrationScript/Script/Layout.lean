import MigrationScript.Json.Standard

namespace MigrationScript

inductive LineEnding
  | lf
  | crlf
  deriving DecidableEq

namespace LineEnding

def text : LineEnding → String
  | .lf => "\n"
  | .crlf => "\r\n"

def name : LineEnding → String
  | .lf => "lf"
  | .crlf => "crlf"

def ofName? (name : String) : Option LineEnding :=
  [LineEnding.lf, .crlf].find? fun ending => ending.name == name

/-- Line endings by their names. An object whose one member is null stands for its name. -/
def codec : Codec LineEnding where
  encode ending := .string ending.name
  decode
    | .string name => ofName? name
    | .object [(name, .null)] => ofName? name
    | _ => none

end LineEnding

/-- The spaces of one level of indentation, and what ends a line. -/
structure Layout where
  indentWidth : UInt64 := 4
  ending : LineEnding := .lf
  deriving DecidableEq

instance : Inhabited Layout := ⟨{}⟩

namespace Layout

def widthCodec : Codec UInt64 where
  encode value := .integer value.toNat
  decode
    | .integer value => uint64? value
    | _ => none

def record : Record Layout where
  fields := [
    ⟨"indentWidth", widthCodec, (·.indentWidth),
      fun indentWidth layout => { layout with indentWidth }⟩,
    ⟨"lineEnding", LineEnding.codec, (·.ending), fun ending layout => { layout with ending }⟩]
  initial := {}
  nodup := by simp
  get_set := by simp
  apart := by simp [Field.Apart]
  ext := by rintro ⟨⟩ ⟨⟩; simp

/-- The layout that a JSON text describes; what it leaves out is as usual. -/
def read? (text : String) : Option Layout :=
  (Json.readRecord? (record.fields.map (·.name)) text).bind record.codec.decode

def text (layout : Layout) : String :=
  (record.codec.encode layout).text

end Layout

/-- A line of text and the level at which it is indented. -/
structure Line where
  level : Nat
  text : List Char
  deriving DecidableEq

namespace Line

def render (layout : Layout) (line : Line) : List Char :=
  List.replicate (line.level * layout.indentWidth.toNat) ' ' ++ line.text ++
    layout.ending.text.toList

end Line

end MigrationScript
