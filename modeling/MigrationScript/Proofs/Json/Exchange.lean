import MigrationScript.Json.Derive
import MigrationScript.Json.Format
import MigrationScript.Proofs.Json.Members

/-!
# What comes back of written values

By the laws alone. A double that is not finite is written as null, which no codec of doubles reads;
so a value with such a double in it is refused, and every other one comes back as it is. Of a record
it is enough to know the one field that can have doubles in it.
-/

namespace MigrationScript

/-! ### Texts -/

namespace Json

variable {reads : Double → Prop} {depth : Nat} {json : Json} {chars : List Char}

theorem Fits.mono {reads' : Double → Prop} (hreads : ∀ number, reads number → reads' number)
    (h : json.Fits reads depth) : json.Fits reads' depth := by
  induction h with
  | null => exact .null
  | bool value => exact .bool value
  | integer h => exact .integer h
  | real h => exact .real (hreads _ h)
  | string value => exact .string value
  | array _ ih => exact .array ih
  | object _ ih => exact .object ih

theorem IsText.mono {isNumber isNumber' : Double → List Char → Prop}
    (h : IsText isNumber json chars) (hfits : json.Fits reads depth)
    (hreads : ∀ number chars, reads number → isNumber number chars → isNumber' number chars) :
    IsText isNumber' json chars := by
  induction h generalizing depth with
  | spaced hbefore _ hafter ih => exact .spaced hbefore (ih hfits) hafter
  | null => exact .null
  | true => exact .true
  | false => exact .false
  | integer value => exact .integer value
  | real hform h =>
    cases hfits with
    | real hvalue => exact .real hform (hreads _ _ hvalue h)
  | string h => exact .string h
  | emptyArray hspace => exact .emptyArray hspace
  | array hne _ ih =>
    cases hfits with
    | array hitems =>
      exact .array hne fun part hpart => ih part hpart (hitems part.1 (List.mem_map_of_mem hpart))
  | emptyObject hspace => exact .emptyObject hspace
  | object hne hnames _ ih =>
    cases hfits with
    | object hmembers =>
      exact .object hne hnames fun part hpart =>
        ih part hpart (hmembers part.1 (List.mem_map_of_mem hpart))

end Json

theorem TextFormat.Laws.read_write {format : TextFormat} (hformat : format.Laws) {α : Type}
    {codec : Codec α} {value : α}
    (hfits : (codec.encode value).asWritten.Fits format.ReadsBack Json.maxDepth) :
    format.read codec (format.write codec value) = codec.decode (codec.encode value).asWritten := by
  refine hformat.read_of_isText codec ?_ (hfits.mono fun _ _ => trivial)
  refine (hformat.isText_write codec value).mono hfits ?_
  rintro number _ hreads rfl
  exact hreads

/-! ### Codecs -/

/-- The written forms of values nest to a depth at most. A value with finite doubles alone comes
back as it is, and any other is refused. -/
structure Codec.Exchanges {α : Type} (codec : Codec α) (depth : Nat) (doubles : α → List Double) :
    Prop where
  fits : ∀ (reads : Double → Prop) value, (∀ x ∈ doubles value, x.isFinite = true → reads x) →
    (codec.encode value).asWritten.Fits reads depth
  decode_asWritten : ∀ value, codec.decode (codec.encode value).asWritten =
    if (doubles value).all (·.isFinite) then some value else none

/-- The same of the values of a field. -/
structure Field.Exchanges {σ : Type} (field : Field σ) (depth : Nat) (doubles : σ → List Double) :
    Prop where
  fits : ∀ (reads : Double → Prop) record,
    (∀ x ∈ doubles record, x.isFinite = true → reads x) →
      (field.codec.encode (field.get record)).asWritten.Fits reads depth
  decode_asWritten : ∀ record,
    field.codec.decode (field.codec.encode (field.get record)).asWritten =
      if (doubles record).all (·.isFinite) then some (field.get record) else none

namespace Codec

variable {α : Type} {depth : Nat}

theorem IsPlain.exchanges_string {codec : Codec String} (h : codec.IsPlain .string) :
    codec.Exchanges depth fun _ => [] where
  fits reads value _ := by
    rw [h.encode, Json.asWritten]
    exact .string value
  decode_asWritten value := by
    rw [h.encode, Json.asWritten, h.decode]
    rfl

theorem IsPlain.exchanges_bool {codec : Codec Bool} (h : codec.IsPlain .bool) :
    codec.Exchanges depth fun _ => [] where
  fits reads value _ := by
    rw [h.encode, Json.asWritten]
    exact .bool value
  decode_asWritten value := by
    rw [h.encode, Json.asWritten, h.decode]
    rfl

theorem IsInteger.exchanges {codec : Codec α} {toInt : α → Int} (h : codec.IsInteger toInt)
    (hrange : ∀ value, Json.InRange (toInt value)) : codec.Exchanges depth fun _ => [] where
  fits reads value _ := by
    rw [h.encode, Json.asWritten]
    exact .integer (hrange value)
  decode_asWritten value := by
    rw [h.encode, Json.asWritten, h.decode.mpr rfl]
    rfl

theorem IsPlain.exchanges_double {codec : Codec Double} (h : codec.IsPlain .real) :
    codec.Exchanges depth fun value => [value] where
  fits reads value hreads := by
    rw [h.encode, Json.asWritten]
    split
    · rename_i hfinite
      exact .real (hreads value (List.mem_singleton_self value) hfinite)
    · exact .null
  decode_asWritten value := by
    rw [h.encode, Json.asWritten, List.all_cons, List.all_nil, Bool.and_true]
    split
    · exact h.decode value
    · exact h.null

theorem IsUnits.exchanges {codec : Codec α} {units : Units α} (h : codec.IsUnits units) :
    codec.Exchanges depth fun _ => [] where
  fits reads value _ := by
    rw [h.encode, Json.asWritten]
    exact .string (units.name value)
  decode_asWritten value := by
    rw [h.encode, Json.asWritten, h.decode.mpr rfl]
    rfl

section Nested

variable {inner : Codec α} {doubles : α → List Double} (h : inner.Exchanges depth doubles)

include h

theorem IsOption.exchanges {codec : Codec (Option α)} (hoption : codec.IsOption inner)
    (hnull : ∀ value, (inner.encode value).asWritten ≠ .null) :
    codec.Exchanges depth fun value => value.toList.flatMap doubles where
  fits reads
    | none, _ => by
      rw [hoption.encode_none, Json.asWritten]
      exact .null
    | some value, hreads => by
      rw [hoption.encode_some]
      exact h.fits reads value fun x hx => hreads x (by simpa using hx)
  decode_asWritten
    | none => by
      rw [hoption.encode_none, Json.asWritten, hoption.decode_null]
      rfl
    | some value => by
      rw [hoption.encode_some, hoption.decode _ (hnull value), h.decode_asWritten,
        Option.toList_some, List.flatMap_singleton]
      split <;> rfl

theorem IsList.exchanges {codec : Codec (List α)} (hlist : codec.IsList inner) :
    codec.Exchanges (depth + 1) fun values => values.flatMap doubles where
  fits reads values hreads := by
    rw [hlist.encode, Json.asWritten, List.map_map]
    refine .array (List.forall_mem_map.mpr fun value hvalue => ?_)
    exact h.fits reads value fun x hx => hreads x (List.mem_flatMap_of_mem hvalue hx)
  decode_asWritten values := by
    rw [hlist.encode, Json.asWritten, hlist.decode, List.map_map]
    induction values with
    | nil => rfl
    | cons value values ih =>
      rw [List.map_cons, List.mapM_cons, ih, Function.comp_apply, h.decode_asWritten,
        List.flatMap_cons, List.all_append]
      cases (doubles value).all (·.isFinite) <;>
        cases (values.flatMap doubles).all (·.isFinite) <;> rfl

end Nested

section Without

variable {inner : Codec α} (h : inner.Exchanges depth fun _ => [])

include h

/-- What has no doubles has none if it is optional. -/
theorem IsOption.exchanges_nil {codec : Codec (Option α)} (hoption : codec.IsOption inner)
    (hnull : ∀ value, (inner.encode value).asWritten ≠ .null) :
    codec.Exchanges depth fun _ => [] := by
  have hnil : (fun value : Option α => value.toList.flatMap fun _ => ([] : List Double)) =
      fun _ => [] := by
    funext value
    exact List.flatMap_eq_nil_iff.mpr fun _ _ => rfl
  exact hnil ▸ IsOption.exchanges h hoption hnull

theorem IsList.exchanges_nil {codec : Codec (List α)} (hlist : codec.IsList inner) :
    codec.Exchanges (depth + 1) fun _ => [] := by
  have hnil : (fun values : List α => values.flatMap fun _ => ([] : List Double)) =
      fun _ => [] := by
    funext values
    exact List.flatMap_eq_nil_iff.mpr fun _ _ => rfl
  exact hnil ▸ IsList.exchanges h hlist

end Without

end Codec

theorem Codec.Exchanges.field {σ : Type} {depth : Nat} {field : Field σ}
    {doubles : field.Value → List Double} (h : field.codec.Exchanges depth doubles) :
    field.Exchanges depth fun record => doubles (field.get record) where
  fits reads record := h.fits reads (field.get record)
  decode_asWritten record := h.decode_asWritten (field.get record)

/-! ### Records -/

namespace Record

variable {σ : Type} {record : Record σ} {depth : Nat} {doubles : σ → List Double}

/-- Some field has the doubles of a record; of the others each has none or has them too. -/
structure Exchanges (record : Record σ) (depth : Nat) (doubles : σ → List Double) : Prop where
  all : ∀ field ∈ record.fields,
    field.codec.Exchanges depth (fun _ => []) ∨ field.Exchanges depth doubles
  some : ∃ field ∈ record.fields, field.Exchanges depth doubles

theorem exchanges_of_forall (hne : record.fields ≠ [])
    (h : ∀ field ∈ record.fields, field.codec.Exchanges depth fun _ => []) :
    record.Exchanges depth fun _ => [] where
  all field hmem := .inl (h field hmem)
  some := by
    obtain ⟨field, hmem⟩ := List.exists_mem_of_ne_nil _ hne
    exact ⟨field, hmem, (h field hmem).field⟩

/-- A record with finite doubles alone comes back field by field. -/
theorem Exchanges.reads_iff (h : record.Exchanges depth doubles) {value read : σ} :
    record.Reads (record.fields.map fun field =>
      (field.name, (field.codec.encode (field.get value)).asWritten)) read ↔
      (doubles value).all (·.isFinite) = true ∧ read = value := by
  rw [reads_map fun field => (field.codec.encode (field.get value)).asWritten]
  constructor
  · intro hread
    have hfinite : (doubles value).all (·.isFinite) = true := by
      obtain ⟨field, hmem, hfield⟩ := h.some
      by_contra hinfinite
      have hdecode := hread field hmem
      rw [hfield.decode_asWritten, if_neg hinfinite] at hdecode
      cases hdecode
    refine ⟨hfinite, record.ext _ _ fun field hmem => ?_⟩
    have hdecode := hread field hmem
    obtain hfield | hfield := h.all field hmem
    · rw [hfield.decode_asWritten] at hdecode
      exact (Option.some.inj hdecode).symm
    · rw [hfield.decode_asWritten, if_pos hfinite] at hdecode
      exact (Option.some.inj hdecode).symm
  · rintro ⟨hfinite, rfl⟩ field hmem
    obtain hfield | hfield := h.all field hmem
    · exact hfield.decode_asWritten (field.get read)
    · rw [hfield.decode_asWritten, if_pos hfinite]

theorem Exchanges.fits (h : record.Exchanges depth doubles) (reads : Double → Prop) (value : σ)
    (hreads : ∀ x ∈ doubles value, x.isFinite = true → reads x) :
    ∀ field ∈ record.fields, (field.codec.encode (field.get value)).asWritten.Fits reads depth := by
  intro field hmem
  obtain hfield | hfield := h.all field hmem
  · exact hfield.fits reads (field.get value) (List.forall_mem_nil _)
  · exact hfield.fits reads value hreads

end Record

theorem Codec.IsRecord.exchanges {σ : Type} {record : Record σ} {codec : Codec σ} {depth : Nat}
    {doubles : σ → List Double} (hrecord : codec.IsRecord record)
    (h : record.Exchanges depth doubles) : codec.Exchanges (depth + 1) doubles where
  fits reads value hreads := by
    rw [hrecord.encode, Json.asWritten, List.map_map]
    exact .object (List.forall_mem_map.mpr (h.fits reads value hreads))
  decode_asWritten value := by
    rw [hrecord.encode, Json.asWritten, List.map_map]
    ext read
    rw [hrecord.decode, Function.comp_def, h.reads_iff]
    split
    · rename_i hfinite
      simp [hfinite, eq_comm]
    · rename_i hinfinite
      simp [hinfinite]

/-! ### Types of several forms -/

namespace Codec

variable {α : Type} {codec : Codec α} {variants : Variants α} {depth : Nat}
  {doubles : α → List Double}

theorem IsExternal.exchanges (hexternal : codec.IsExternal variants)
    (h : ∀ tag, (variants.codec tag).Exchanges depth fun content =>
      doubles (variants.wrap tag content)) : codec.Exchanges (depth + 1) doubles where
  fits reads value hreads := by
    rw [← variants.wrap_split value] at hreads ⊢
    rw [hexternal.encode, Json.asWritten]
    exact .object (List.forall_mem_singleton.mpr ((h _).fits reads _ hreads))
  decode_asWritten value := by
    rw [← variants.wrap_split value, hexternal.encode, Json.asWritten, List.map_singleton,
      hexternal.decode, (h _).decode_asWritten]
    split <;> rfl

theorem filter_of_missing {key : String} {members : List (String × Json)}
    (h : Json.occurrences key members = 0) :
    members.filter (fun member => member.1 ≠ key) = members := by
  refine List.filter_eq_self.mpr fun member hmem => decide_eq_true ?_
  rintro rfl
  exact List.count_eq_zero.mp h (List.mem_map_of_mem hmem)

/-- In front of members under other names, the tag tells which content is read from these. -/
theorem IsInternal.decode_cons {key : String} (hinternal : codec.IsInternal key variants)
    {members : List (String × Json)} (hmissing : Json.occurrences key members = 0)
    (tag : variants.Tag) :
    codec.decode (.object ((key, .string (variants.tags.name tag)) :: members)) =
      ((variants.codec tag).decode (.object members)).map (variants.wrap tag) := by
  have hunique : Json.occurrences key ((key, .string (variants.tags.name tag)) :: members) = 1 := by
    rw [Json.occurrences_cons_self, hmissing]
  have hfilter : ((key, Json.string (variants.tags.name tag)) :: members).filter
      (fun member => member.1 ≠ key) = members := by
    rw [List.filter_cons_of_neg (by simp), filter_of_missing hmissing]
  ext value
  rw [hinternal.decode, Option.map_eq_some_iff, hfilter]
  constructor
  · rintro ⟨tag', content, -, hmem, hcontent, hvalue⟩
    have hname := Json.eq_of_mem_of_mem (Nat.le_of_eq hunique) hmem List.mem_cons_self
    obtain rfl := variants.tags.eq_of_name_eq (Json.string.inj hname)
    exact ⟨content, hcontent, hvalue⟩
  · rintro ⟨content, hcontent, hvalue⟩
    exact ⟨tag, content, hunique, List.mem_cons_self, hcontent, hvalue⟩

theorem IsInternal.exchanges {key : String} (hinternal : codec.IsInternal key variants)
    (hobject : ∀ tag content, ∃ members, (variants.codec tag).encode content = .object members ∧
      Json.occurrences key members = 0)
    (h : ∀ tag, (variants.codec tag).Exchanges (depth + 1) fun content =>
      doubles (variants.wrap tag content)) : codec.Exchanges (depth + 1) doubles where
  fits reads value hreads := by
    rw [← variants.wrap_split value] at hreads ⊢
    obtain ⟨members, hmembers, -⟩ := hobject _ (variants.split value).2
    have hfits := (h _).fits reads _ hreads
    rw [hmembers, Json.asWritten] at hfits
    rw [hinternal.encode _ _ members hmembers, Json.asWritten, List.map_cons, Json.asWritten]
    cases hfits with
    | object hfits => exact .object (List.forall_mem_cons.mpr ⟨.string _, hfits⟩)
  decode_asWritten value := by
    rw [← variants.wrap_split value]
    obtain ⟨members, hmembers, hmissing⟩ := hobject _ (variants.split value).2
    have hdecode := (h _).decode_asWritten (variants.split value).2
    rw [hmembers, Json.asWritten] at hdecode
    rw [hinternal.encode _ _ members hmembers, Json.asWritten, List.map_cons, Json.asWritten,
      hinternal.decode_cons, hdecode]
    · split <;> rfl
    · rwa [Json.occurrences, List.map_map]

end Codec

end MigrationScript
