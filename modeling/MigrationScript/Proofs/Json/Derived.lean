import MigrationScript.Json.Standard
import MigrationScript.Proofs.Json.Members

/-!
# The codecs that run are derived codecs

They keep `Derive.Laws`. For records, the fields are put in one after the other; since they are
apart, what has been put in is still there at the end.
-/

namespace MigrationScript

open Json

/-! ### Values of the language -/

namespace Codec

theorem isPlain_string : string.IsPlain .string where
  encode _ := rfl
  decode _ := rfl
  null := rfl

theorem isPlain_bool : bool.IsPlain .bool where
  encode _ := rfl
  decode _ := rfl
  null := rfl

theorem isPlain_double : double.IsPlain .real where
  encode _ := rfl
  decode _ := rfl
  null := rfl

theorem isInteger_int32 : int32.IsInteger Int32.toInt where
  encode _ := rfl
  decode := int32?_eq_some_iff
  real _ := rfl
  null := rfl

theorem isInteger_int64 : int64.IsInteger Int64.toInt where
  encode _ := rfl
  decode := int64?_eq_some_iff
  real _ := rfl
  null := rfl

theorem isOption_option {α : Type} (inner : Codec α) : inner.option.IsOption inner where
  encode_none := rfl
  encode_some _ := rfl
  decode_null := rfl
  decode json hne := by
    cases json with
    | null => exact absurd rfl hne
    | _ => rfl

theorem isList_list {α : Type} (inner : Codec α) : inner.list.IsList inner where
  encode _ := rfl
  decode _ := rfl
  null := rfl

end Codec

theorem Units.isUnits_codec {α : Type} (units : Units α) : units.codec.IsUnits units where
  encode _ := rfl
  decode := units.ofName?_eq_some_iff
  null := rfl

/-! ### Records -/

namespace Field

variable {σ : Type} {field : Field σ} {made initial value value' : σ}
  {members : List (String × Json)}

theorem IsRead.get_eq (h : field.IsRead initial members value)
    (h' : field.IsRead initial members value') : field.get value = field.get value' := by
  cases h with
  | missing hmissing hvalue => rw [hvalue, (isRead_of_missing hmissing).mp h']
  | given _ hmem hvalue => exact Option.some.inj (hvalue.symm.trans (h'.decode_eq hmem))

/-- The other fields of the record do not matter. -/
theorem IsRead.congr (h : field.IsRead made members value)
    (hmade : field.get made = field.get initial) (hvalue : field.get value = field.get value') :
    field.IsRead initial members value' := by
  cases h with
  | missing hmissing h => exact .missing hmissing (hvalue ▸ h.trans hmade)
  | given hunique hmem h => exact .given hunique hmem (hvalue ▸ h)

end Field

namespace Record

variable {σ : Type} {field : Field σ} {made next initial value : σ} {members : List (String × Json)}

/-- One step gives the field what the members say, and no other field is changed. -/
theorem isRead_of_take (hset : ∀ value record, field.get (field.set value record) = value)
    (hunique : occurrences field.name members ≤ 1) (h : take members made field = some next) :
    field.IsRead made members next ∧
      ∀ other : Field σ, other.Apart field → other.get next = other.get made := by
  rw [take] at h
  cases hlookup : members.lookup field.name with
  | none =>
    rw [hlookup] at h
    obtain rfl := Option.some.inj h
    have hmissing : occurrences field.name members = 0 := by
      rw [List.lookup_eq_none_iff] at hlookup
      refine Nat.eq_zero_of_not_pos fun hpos => ?_
      obtain ⟨json, hmem⟩ := occurrences_pos_iff.mp hpos
      simpa using hlookup _ hmem
    exact ⟨.missing hmissing rfl, fun _ _ => rfl⟩
  | some json =>
    rw [hlookup] at h
    obtain ⟨content, hcontent, rfl⟩ := Option.map_eq_some_iff.mp h
    obtain ⟨front, back, hmembers, -⟩ := List.lookup_eq_some_iff.mp hlookup
    have hmem : (field.name, json) ∈ members := hmembers ▸ List.mem_append_cons_self
    have hone := Nat.le_antisymm hunique (occurrences_pos_of_mem hmem)
    exact ⟨.given hone hmem ((hset content made).symm ▸ hcontent), fun other h => h content made⟩

theorem exists_take (h : field.IsRead initial members value) (made : σ) :
    ∃ next, take members made field = some next := by
  rw [take]
  cases hlookup : members.lookup field.name with
  | none => exact ⟨made, rfl⟩
  | some json =>
    obtain ⟨front, back, hmembers, -⟩ := List.lookup_eq_some_iff.mp hlookup
    have hmem : (field.name, json) ∈ members := hmembers ▸ List.mem_append_cons_self
    have hdecode := h.decode_eq hmem
    exact ⟨_, congrArg (Option.map (field.set · made)) hdecode⟩

theorem isRead_of_foldlM {fields : List (Field σ)}
    (hset : ∀ field ∈ fields, ∀ value record, field.get (field.set value record) = value)
    (hapart : fields.Pairwise fun first second => first.Apart second ∧ second.Apart first)
    (hunique : ∀ field ∈ fields, occurrences field.name members ≤ 1)
    (h : fields.foldlM (take members) made = some value) :
    (∀ field ∈ fields, field.IsRead made members value) ∧
      ∀ other : Field σ, (∀ field ∈ fields, other.Apart field) →
        other.get value = other.get made := by
  induction fields generalizing made with
  | nil =>
    obtain rfl := Option.some.inj h
    exact ⟨List.forall_mem_nil _, fun _ _ => rfl⟩
  | cons field fields ih =>
    rw [List.forall_mem_cons] at hset hunique
    rw [List.pairwise_cons] at hapart
    obtain ⟨next, hnext, hrest⟩ := Option.bind_eq_some_iff.mp h
    obtain ⟨hfield, hothers⟩ := isRead_of_take hset.1 hunique.1 hnext
    obtain ⟨hfields, hkept⟩ := ih hset.2 hapart.2 hunique.2 hrest
    constructor
    · rw [List.forall_mem_cons]
      constructor
      · exact hfield.congr rfl (hkept field fun other hmem => (hapart.1 other hmem).1).symm
      · intro other hmem
        exact (hfields other hmem).congr (hothers other (hapart.1 other hmem).2) rfl
    · intro other hother
      rw [List.forall_mem_cons] at hother
      rw [hkept other hother.2, hothers other hother.1]

theorem exists_foldlM {fields : List (Field σ)}
    (h : ∀ field ∈ fields, field.IsRead initial members value) (made : σ) :
    ∃ last, fields.foldlM (take members) made = some last := by
  induction fields generalizing made with
  | nil => exact ⟨made, rfl⟩
  | cons field fields ih =>
    rw [List.forall_mem_cons] at h
    obtain ⟨next, hnext⟩ := exists_take h.1 made
    obtain ⟨last, hlast⟩ := ih h.2 next
    exact ⟨last, Option.bind_eq_some_iff.mpr ⟨next, hnext, hlast⟩⟩

theorem ofMembers?_eq_some_iff {record : Record σ} :
    record.ofMembers? members = some value ↔ record.Reads members value := by
  have hread {value : σ} (hunique : ∀ field ∈ record.fields, occurrences field.name members ≤ 1)
      (h : record.fields.foldlM (take members) record.initial = some value) :
      record.Reads members value :=
    (isRead_of_foldlM record.get_set record.apart hunique h).1
  rw [ofMembers?]
  constructor
  · intro h
    split at h
    · rename_i hall
      rw [List.all_eq_true] at hall
      exact hread (fun field hfield => of_decide_eq_true (hall field hfield)) h
    · cases h
  · intro h
    have hunique (field : Field σ) (hfield : field ∈ record.fields) :
        occurrences field.name members ≤ 1 := (h field hfield).occurrences_le
    obtain ⟨last, hlast⟩ := exists_foldlM h record.initial
    have heq : last = value := record.ext last value fun field hfield =>
      (hread hunique hlast field hfield).get_eq (h field hfield)
    rw [if_pos (List.all_eq_true.mpr fun field hfield => decide_eq_true (hunique field hfield)),
      hlast, heq]

theorem isRecord_codec (record : Record σ) : record.codec.IsRecord record where
  encode _ := rfl
  decode := ofMembers?_eq_some_iff

end Record

/-! ### Types of several forms -/

namespace Variants

variable {α : Type} {variants : Variants α}

theorem ofName?_name (tag : variants.Tag) :
    variants.tags.ofName? (variants.tags.name tag) = some tag :=
  variants.tags.ofName?_eq_some_iff.mpr rfl

theorem write_wrap (tag : variants.Tag) (content : variants.Content tag) :
    variants.write (variants.wrap tag content) =
      (variants.tags.name tag, (variants.codec tag).encode content) := by
  rw [write, variants.split_wrap]

theorem isExternal_external : variants.external.IsExternal variants where
  encode tag content := congrArg (fun member => Json.object [member]) (write_wrap tag content)
  decode tag json := by
    change (variants.tags.ofName? (variants.tags.name tag)).bind (variants.read? · json) = _
    rw [ofName?_name]
    rfl
  single members hlength := by
    match members with
    | [] => rfl
    | [_] => exact absurd rfl hlength
    | _ :: _ :: _ => rfl

theorem length_filter_eq (key : String) (members : List (String × Json)) :
    (members.filter fun member => member.1 = key).length = occurrences key members := by
  rw [occurrences, ← List.countP_eq_length_filter, List.count, List.countP_map]
  exact List.countP_congr fun member _ => by simp

theorem tagOf?_eq_some_iff {key : String} {members : List (String × Json)} {tag : variants.Tag} :
    variants.tagOf? key members = some tag ↔
      occurrences key members = 1 ∧ (key, .string (variants.tags.name tag)) ∈ members := by
  rw [tagOf?, ← length_filter_eq]
  constructor
  · intro h
    split at h
    · rename_i key' name hfilter
      have hkept : (key', Json.string name) ∈ members.filter fun member => member.1 = key :=
        hfilter ▸ List.mem_singleton_self _
      obtain ⟨hmem, hkey⟩ := List.mem_filter.mp hkept
      obtain rfl := of_decide_eq_true hkey
      exact ⟨by rw [hfilter]; rfl, variants.tags.ofName?_eq_some_iff.mp h ▸ hmem⟩
    · cases h
  · rintro ⟨hlength, hmem⟩
    obtain ⟨member, hfilter⟩ := List.length_eq_one_iff.mp hlength
    have hkept : (key, Json.string (variants.tags.name tag)) ∈
        members.filter fun member => member.1 = key := by simpa using hmem
    rw [hfilter, List.mem_singleton] at hkept
    rw [hfilter, ← hkept]
    exact ofName?_name tag

theorem isInternal_internal (key : String) : (variants.internal key).IsInternal key variants where
  encode tag content members h := by
    have hwrite := write_wrap tag content
    rw [h] at hwrite
    rw [internal]
    simp only [hwrite]
  decode {members value} := by
    change (variants.tagOf? key members).bind _ = some value ↔ _
    simp only [Option.bind_eq_some_iff, tagOf?_eq_some_iff, read?, Option.map_eq_some_iff]
    constructor
    · rintro ⟨tag, ⟨hunique, hmem⟩, content, hcontent, hvalue⟩
      exact ⟨tag, content, hunique, hmem, hcontent, hvalue⟩
    · rintro ⟨tag, content, hunique, hmem, hcontent, hvalue⟩
      exact ⟨tag, ⟨hunique, hmem⟩, content, hcontent, hvalue⟩

end Variants

theorem Derive.laws_standard : Derive.standard.Laws where
  string := Codec.isPlain_string
  bool := Codec.isPlain_bool
  int32 := Codec.isInteger_int32
  int64 := Codec.isInteger_int64
  double := Codec.isPlain_double
  option := Codec.isOption_option
  list := Codec.isList_list
  units := Units.isUnits_codec
  record := Record.isRecord_codec
  external _ := Variants.isExternal_external
  internal key _ := Variants.isInternal_internal key

end MigrationScript
