import MigrationScript.Json.Codec

/-!
# Derived codecs

The library that makes the codecs is a parameter of what is said about the exchange. `Derive` is
what it offers, and `Derive.Laws` is what is documented about the codecs that it makes. Nothing is
laid down for inputs that are no written form of a declaration, such as an array in the place of a
record.
-/

namespace MigrationScript

/-- A field of a record is read from the members of an object: it is left out and has its default,
or it is given once and the value is one that its codec reads. -/
inductive Field.IsRead {σ : Type} (field : Field σ) (initial : σ) (members : List (String × Json))
    (value : σ) : Prop
  | missing (hmissing : Json.occurrences field.name members = 0)
      (hvalue : field.get value = field.get initial)
  | given {json : Json} (hunique : Json.occurrences field.name members = 1)
      (hmem : (field.name, json) ∈ members)
      (hvalue : field.codec.decode json = some (field.get value))

/-- Members under other names than those of the fields are passed over. -/
def Record.Reads {σ : Type} (record : Record σ) (members : List (String × Json)) (value : σ) :
    Prop :=
  ∀ field ∈ record.fields, field.IsRead record.initial members value

namespace Codec

variable {α : Type}

/-- A codec of the values that JSON has as they are. -/
structure IsPlain (codec : Codec α) (form : α → Json) : Prop where
  encode : ∀ value, codec.encode value = form value
  decode : ∀ value, codec.decode (form value) = some value
  null : codec.decode .null = none

/-- A codec of integers of some width. Other integers are refused, and so are all other numbers. -/
structure IsInteger (codec : Codec α) (toInt : α → Int) : Prop where
  encode : ∀ value, codec.encode value = .integer (toInt value)
  decode : ∀ {number value}, codec.decode (.integer number) = some value ↔ toInt value = number
  real : ∀ number, codec.decode (.real number) = none
  null : codec.decode .null = none

structure IsOption (codec : Codec (Option α)) (inner : Codec α) : Prop where
  encode_none : codec.encode none = .null
  encode_some : ∀ value, codec.encode (some value) = inner.encode value
  decode_null : codec.decode .null = some none
  decode : ∀ json, json ≠ .null → codec.decode json = (inner.decode json).map some

structure IsList (codec : Codec (List α)) (inner : Codec α) : Prop where
  encode : ∀ values, codec.encode values = .array (values.map inner.encode)
  decode : ∀ items, codec.decode (.array items) = items.mapM inner.decode
  null : codec.decode .null = none

structure IsUnits (codec : Codec α) (units : Units α) : Prop where
  encode : ∀ value, codec.encode value = .string (units.name value)
  decode : ∀ {text value}, codec.decode (.string text) = some value ↔ units.name value = text
  null : codec.decode .null = none

/-- A codec of records, each of whose fields may be left out and has its default then. -/
structure IsRecord {σ : Type} (codec : Codec σ) (record : Record σ) : Prop where
  encode : ∀ value, codec.encode value =
    .object (record.fields.map fun field => (field.name, field.codec.encode (field.get value)))
  decode : ∀ {members value}, codec.decode (.object members) = some value ↔
    record.Reads members value

/-- A codec of values as objects with one member, which is named by the tag and has the content. -/
structure IsExternal (codec : Codec α) (variants : Variants α) : Prop where
  encode : ∀ tag content, codec.encode (variants.wrap tag content) =
    .object [(variants.tags.name tag, (variants.codec tag).encode content)]
  decode : ∀ tag json, codec.decode (.object [(variants.tags.name tag, json)]) =
    ((variants.codec tag).decode json).map (variants.wrap tag)
  single : ∀ members, members.length ≠ 1 → codec.decode (.object members) = none

/-- A codec of values as the objects of their contents with one more member, which names the tag.
The content is read from the others. -/
structure IsInternal (codec : Codec α) (key : String) (variants : Variants α) : Prop where
  encode : ∀ tag content members, (variants.codec tag).encode content = .object members →
    codec.encode (variants.wrap tag content) =
      .object ((key, .string (variants.tags.name tag)) :: members)
  decode : ∀ {members value}, codec.decode (.object members) = some value ↔
    ∃ tag content, Json.occurrences key members = 1 ∧
      (key, .string (variants.tags.name tag)) ∈ members ∧
      (variants.codec tag).decode (.object (members.filter fun member => member.1 ≠ key)) =
        some content ∧
      variants.wrap tag content = value

end Codec

/-- The codecs that a library has for values of the language, and those that it makes from others
and from declarations. -/
structure Derive where
  string : Codec String
  bool : Codec Bool
  int32 : Codec Int32
  int64 : Codec Int64
  double : Codec Double
  option : {α : Type} → Codec α → Codec (Option α)
  list : {α : Type} → Codec α → Codec (List α)
  units : {α : Type} → Units α → Codec α
  record : {σ : Type} → Record σ → Codec σ
  external : {α : Type} → Variants α → Codec α
  internal : {α : Type} → String → Variants α → Codec α

structure Derive.Laws (derive : Derive) : Prop where
  string : derive.string.IsPlain .string
  bool : derive.bool.IsPlain .bool
  int32 : derive.int32.IsInteger Int32.toInt
  int64 : derive.int64.IsInteger Int64.toInt
  double : derive.double.IsPlain .real
  option : ∀ {α : Type} (inner : Codec α), (derive.option inner).IsOption inner
  list : ∀ {α : Type} (inner : Codec α), (derive.list inner).IsList inner
  units : ∀ {α : Type} (units : Units α), (derive.units units).IsUnits units
  record : ∀ {σ : Type} (record : Record σ), (derive.record record).IsRecord record
  external : ∀ {α : Type} (variants : Variants α), (derive.external variants).IsExternal variants
  internal : ∀ {α : Type} (key : String) (variants : Variants α),
    (derive.internal key variants).IsInternal key variants

end MigrationScript
