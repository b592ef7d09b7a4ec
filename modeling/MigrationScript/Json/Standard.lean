import MigrationScript.FixedWidth
import MigrationScript.Json.Derive
import MigrationScript.Json.Format
import MigrationScript.Json.Reader
import MigrationScript.Json.Writer

/-!
# The exchange that runs

Codecs and texts with which operations can be written and read. Where `Derive.Laws` leaves the
choice, an array is read as the fields of a record in their order, and an enumeration also as an
object whose one member has its name and no value. Decimals are rounded exactly, which
`TextFormat.Laws` does not ask for.
-/

namespace MigrationScript

namespace Codec

def string : Codec String where
  encode := .string
  decode
    | .string value => some value
    | _ => none

def bool : Codec Bool where
  encode := .bool
  decode
    | .bool value => some value
    | _ => none

def int32 : Codec Int32 where
  encode value := .integer value.toInt
  decode
    | .integer value => int32? value
    | _ => none

def int64 : Codec Int64 where
  encode value := .integer value.toInt
  decode
    | .integer value => int64? value
    | _ => none

/-- Doubles; an integer stands for the double nearest to it. -/
def double : Codec Double where
  encode := .real
  decode
    | .real value => some value
    | .integer value => some (.ofInt value)
    | _ => none

def option {α : Type} (inner : Codec α) : Codec (Option α) where
  encode
    | some value => inner.encode value
    | none => .null
  decode
    | .null => some none
    | json => (inner.decode json).map some

def list {α : Type} (inner : Codec α) : Codec (List α) where
  encode values := .array (values.map inner.encode)
  decode
    | .array items => items.mapM inner.decode
    | _ => none

end Codec

/-- A value that stands for none. -/
def Json.isUnit : Json → Bool
  | .null => true
  | .object [] => true
  | _ => false

def Units.codec {α : Type} (units : Units α) : Codec α where
  encode value := .string (units.name value)
  decode
    | .string name => units.ofName? name
    | .object [(name, value)] => if value.isUnit then units.ofName? name else none
    | _ => none

namespace Record

variable {σ : Type}

/-- Puts a value for the field into the record. -/
def put (made : σ) (field : Field σ) (json : Json) : Option σ :=
  (field.codec.decode json).map (field.set · made)

/-- Puts the member of the field into the record, if there is one. -/
def take (members : List (String × Json)) (made : σ) (field : Field σ) : Option σ :=
  match members.lookup field.name with
  | some json => put made field json
  | none => some made

/-- A field that is left out keeps its default, a member of another name is passed over, and no
field may be given twice. -/
def ofMembers? (record : Record σ) (members : List (String × Json)) : Option σ :=
  if record.fields.all fun field => Json.occurrences field.name members ≤ 1 then
    record.fields.foldlM (take members) record.initial
  else none

/-- The fields at the end may be left out. -/
def ofItems? (record : Record σ) (items : List Json) : Option σ :=
  if items.length ≤ record.fields.length then
    (record.fields.zip items).foldlM (fun made part => put made part.1 part.2) record.initial
  else none

def codec (record : Record σ) : Codec σ where
  encode value :=
    .object (record.fields.map fun field => (field.name, field.codec.encode (field.get value)))
  decode
    | .object members => record.ofMembers? members
    | .array items => record.ofItems? items
    | _ => none

end Record

namespace Variants

variable {α : Type} (variants : Variants α)

/-- The name of the tag and the content. -/
def write (value : α) : String × Json :=
  (variants.tags.name (variants.split value).1,
    (variants.codec (variants.split value).1).encode (variants.split value).2)

def read? (tag : variants.Tag) (json : Json) : Option α :=
  ((variants.codec tag).decode json).map (variants.wrap tag)

/-- Values as objects with one member, which is named by the tag and has the content. -/
def external : Codec α where
  encode value := .object [variants.write value]
  decode
    | .object [(name, json)] => (variants.tags.ofName? name).bind (variants.read? · json)
    | _ => none

/-- The tag that the members name; it is named once. -/
def tagOf? (key : String) (members : List (String × Json)) : Option variants.Tag :=
  match members.filter fun member => member.1 = key with
  | [(_, .string name)] => variants.tags.ofName? name
  | _ => none

/-- Values as the objects of their contents with one more member, which names the tag. In an array
the tag stands in front of the content. -/
def internal (key : String) : Codec α where
  encode value :=
    match variants.write value with
    | (name, .object members) => .object ((key, .string name) :: members)
    | (_, json) => json
  decode
    | .object members => (variants.tagOf? key members).bind
        (variants.read? · (.object (members.filter fun member => member.1 ≠ key)))
    | .array (.string name :: items) =>
      (variants.tags.ofName? name).bind (variants.read? · (.array items))
    | _ => none

end Variants

def Derive.standard : Derive where
  string := .string
  bool := .bool
  int32 := .int32
  int64 := .int64
  double := .double
  option := .option
  list := .list
  units := Units.codec
  record := Record.codec
  external := Variants.external
  internal key variants := variants.internal key

def TextFormat.standard : TextFormat where
  literal := Double.finiteText Double.jsonStyle
  number chars :=
    match Json.readSigned? .full chars with
    | some (.real number, []) => some number
    | _ => none
  write codec value := (codec.encode value).text
  read codec text := (Json.read? text).bind codec.decode

end MigrationScript
