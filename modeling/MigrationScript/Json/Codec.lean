import MigrationScript.Json.Basic

namespace MigrationScript

/-- A way to write values as JSON and to read them. -/
structure Codec (α : Type) where
  encode : α → Json
  decode : Json → Option α

/-- A member of a record: its name in the exchange, and how its value is written and read, got out
of the record and put into it. -/
structure Field (σ : Type) where
  name : String
  {Value : Type}
  codec : Codec Value
  get : σ → Value
  set : Value → σ → σ

/-- What is put into the second field does not show in the first. -/
def Field.Apart {σ : Type} (first second : Field σ) : Prop :=
  ∀ value record, first.get (second.set value record) = first.get record

/-- The fields of a record in the order in which they are written, and the record that has all of
its defaults. The fields are independent of each other, and together they are the whole record. -/
structure Record (σ : Type) where
  fields : List (Field σ)
  initial : σ
  nodup : (fields.map (·.name)).Nodup
  get_set : ∀ field ∈ fields, ∀ value record, field.get (field.set value record) = value
  apart : fields.Pairwise fun first second => first.Apart second ∧ second.Apart first
  ext : ∀ first second, (∀ field ∈ fields, field.get first = field.get second) → first = second

/-- Values that are told by their names alone. -/
structure Units (α : Type) where
  name : α → String
  ofName? : String → Option α
  ofName?_eq_some_iff : ∀ {text value}, ofName? text = some value ↔ name value = text

theorem Units.eq_of_name_eq {α : Type} (units : Units α) {first second : α}
    (h : units.name first = units.name second) : first = second := by
  have hfirst := units.ofName?_eq_some_iff.mpr h
  have hsecond := units.ofName?_eq_some_iff.mpr (Eq.refl (units.name second))
  exact Option.some.inj (hfirst.symm.trans hsecond)

/-- A type of several forms. A value is its form, told by a tag, with the content of the form. -/
structure Variants (α : Type) where
  {Tag : Type}
  tags : Units Tag
  Content : Tag → Type
  codec : (tag : Tag) → Codec (Content tag)
  wrap : (tag : Tag) → Content tag → α
  split : α → (tag : Tag) × Content tag
  wrap_split : ∀ value, wrap (split value).1 (split value).2 = value
  split_wrap : ∀ tag content, split (wrap tag content) = ⟨tag, content⟩

end MigrationScript
