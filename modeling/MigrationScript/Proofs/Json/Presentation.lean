import MigrationScript.Proofs.Json.Members

/-!
# Presentation of records

What is read of the members of an object is settled field by field. So each change of how a record
is written is looked at from the fields: for the field that it is about, and for the others, which
do not notice it.
-/

namespace MigrationScript

open Json

variable {σ : Type}

/-- The value stands for the default of the field. -/
def Record.IsDefault (record : Record σ) (field : Field σ) (json : Json) : Prop :=
  field.codec.decode json = some (field.get record.initial)

/-- Changes of how an object of a record is written. Nothing is added under names that are taken. -/
inductive Record.Restyled (record : Record σ) (taken : List String) :
    List (String × Json) → List (String × Json) → Prop
  | permuted {first second : List (String × Json)} (h : first.Perm second) :
    Restyled record taken first second
  | omitted {field : Field σ} {json : Json} (front back : List (String × Json))
    (hfield : field ∈ record.fields) (hdefault : record.IsDefault field json) :
    Restyled record taken (front ++ (field.name, json) :: back) (front ++ back)
  | supplied {field : Field σ} {json : Json} (front back : List (String × Json))
    (hfield : field ∈ record.fields) (hdefault : record.IsDefault field json)
    (hmissing : occurrences field.name (front ++ back) = 0) :
    Restyled record taken (front ++ back) (front ++ (field.name, json) :: back)
  | added {name : String} (json : Json) (front back : List (String × Json))
    (hunknown : record.Unknown name) (hfree : name ∉ taken) :
    Restyled record taken (front ++ back) (front ++ (name, json) :: back)

namespace Record

variable {record : Record σ} {field : Field σ} {json json' : Json} {value : σ}
  {members first second front back : List (String × Json)}

/-- To give a field its default is to leave it out. -/
theorem reads_cons_default (hfield : field ∈ record.fields) (hdefault : record.IsDefault field json)
    (hmissing : occurrences field.name members = 0) :
    record.Reads ((field.name, json) :: members) value ↔ record.Reads members value := by
  refine forall₂_congr fun field' hfield' => ?_
  by_cases hname : field'.name = field.name
  · obtain rfl := eq_of_name_eq hfield hfield' hname
    rw [Field.isRead_cons_self, Field.isRead_of_missing hmissing, and_iff_right hmissing]
    rw [IsDefault] at hdefault
    rw [hdefault, Option.some.injEq, eq_comm]
  · exact Field.isRead_congr (sameUnder_cons (Ne.symm hname) members)

theorem Reads.missing_of_cons (h : record.Reads ((field.name, json) :: members) value)
    (hfield : field ∈ record.fields) : occurrences field.name members = 0 :=
  (Field.isRead_cons_self.mp (h field hfield)).1

theorem Restyled.reads {taken : List String} (h : record.Restyled taken first second)
    (hfirst : record.Reads first value) : record.Reads second value := by
  cases h with
  | permuted h => rwa [← reads_perm h]
  | omitted front back hfield hdefault =>
    rw [reads_middle] at hfirst
    rwa [reads_cons_default hfield hdefault (hfirst.missing_of_cons hfield)] at hfirst
  | supplied front back hfield hdefault hmissing =>
    rwa [reads_middle, reads_cons_default hfield hdefault hmissing]
  | added json front back hunknown hfree => rwa [reads_middle, reads_cons_of_unknown hunknown]

/-- A value can stand for another one that the field takes as the same. -/
theorem reads_replace (hfield : field ∈ record.fields)
    (h : ∀ content,
      field.codec.decode json = some content → field.codec.decode json' = some content)
    (hfirst : record.Reads (front ++ (field.name, json) :: back) value) :
    record.Reads (front ++ (field.name, json') :: back) value := by
  rw [reads_middle] at hfirst ⊢
  intro field' hfield'
  have hread := hfirst field' hfield'
  by_cases hname : field'.name = field.name
  · obtain rfl := eq_of_name_eq hfield hfield' hname
    rw [Field.isRead_cons_self] at hread ⊢
    exact ⟨hread.1, h _ hread.2⟩
  · rwa [Field.isRead_congr (sameUnder_cons (Ne.symm hname) _)] at hread ⊢

theorem not_reads_of_repeated (hfield : field ∈ record.fields)
    (h : 1 < occurrences field.name members) : ¬record.Reads members value :=
  fun hread => absurd (hread field hfield).occurrences_le (Nat.not_le.mpr h)

/-- An object with a value that the field does not take is not read. -/
theorem not_reads_of_refused (hfield : field ∈ record.fields) (hmem : (field.name, json) ∈ members)
    (h : field.codec.decode json = none) : ¬record.Reads members value := by
  intro hread
  have hdecode := (hread field hfield).decode_eq hmem
  rw [h] at hdecode
  cases hdecode

end Record

/-! ### Nested objects -/

/-- The values of a codec have an object in them, and are read as this one is by another codec. -/
structure Codec.Holds {α β : Type} (codec : Codec α) (part : Codec β)
    (value : List (String × Json) → Json) : Prop where
  keeps : ∀ first second,
    (∀ made, part.decode (.object first) = some made → part.decode (.object second) = some made) →
      ∀ made, codec.decode (value first) = some made → codec.decode (value second) = some made
  refuses : ∀ members, part.decode (.object members) = none → codec.decode (value members) = none

namespace Codec

variable {α : Type} {inner : Codec α} {json json' : Json} {before after : List Json}

theorem mapM_keeps {values : List α}
    (h : ∀ made, inner.decode json = some made → inner.decode json' = some made)
    (hvalues : (before ++ json :: after).mapM inner.decode = some values) :
    (before ++ json' :: after).mapM inner.decode = some values := by
  induction before generalizing values with
  | nil =>
    rw [List.nil_append, List.mapM_cons] at hvalues ⊢
    obtain ⟨value, hvalue, hrest⟩ := Option.bind_eq_some_iff.mp hvalues
    exact Option.bind_eq_some_iff.mpr ⟨value, h value hvalue, hrest⟩
  | cons head before ih =>
    rw [List.cons_append, List.mapM_cons] at hvalues ⊢
    obtain ⟨value, hvalue, hrest⟩ := Option.bind_eq_some_iff.mp hvalues
    obtain ⟨rest, hrest, hvalues⟩ := Option.bind_eq_some_iff.mp hrest
    refine Option.bind_eq_some_iff.mpr ⟨value, hvalue, ?_⟩
    exact Option.bind_eq_some_iff.mpr ⟨rest, ih hrest, hvalues⟩

theorem mapM_eq_none_of_mem {items : List Json} (hmem : json ∈ items)
    (h : inner.decode json = none) : items.mapM inner.decode = none := by
  induction items with
  | nil => cases hmem
  | cons head items ih =>
    rw [List.mapM_cons]
    obtain rfl | htail := List.mem_cons.mp hmem
    · rw [h]
      rfl
    · rw [ih htail]
      exact Option.bind_fun_none _

theorem IsList.holds {codec : Codec (List α)} (hlist : codec.IsList inner)
    (before after : List Json) :
    codec.Holds inner fun members => .array (before ++ .object members :: after) where
  keeps first second h made hmade := by
    rw [hlist.decode] at hmade ⊢
    exact mapM_keeps h hmade
  refuses members h := by
    rw [hlist.decode]
    exact mapM_eq_none_of_mem List.mem_append_cons_self h

theorem IsOption.holds {codec : Codec (Option α)} (hoption : codec.IsOption inner) :
    codec.Holds inner .object where
  keeps first second h made hmade := by
    rw [hoption.decode _ Json.noConfusion, Option.map_eq_some_iff] at hmade ⊢
    obtain ⟨value, hvalue, rfl⟩ := hmade
    exact ⟨value, h value hvalue, rfl⟩
  refuses members h := by
    rw [hoption.decode _ Json.noConfusion, h]
    rfl

end Codec

end MigrationScript
