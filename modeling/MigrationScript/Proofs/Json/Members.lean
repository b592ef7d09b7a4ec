import MigrationScript.Json.Derive
import Mathlib.Data.List.Nodup
import Mathlib.Data.List.Perm.Basic

namespace MigrationScript

namespace Json

variable {name key : String} {json json' : Json} {members first second : List (String × Json)}

theorem occurrences_perm (h : first.Perm second) (name : String) :
    occurrences name first = occurrences name second :=
  (h.map _).count_eq name

@[simp]
theorem occurrences_cons_self (name : String) (json : Json) (members : List (String × Json)) :
    occurrences name ((name, json) :: members) = occurrences name members + 1 :=
  List.count_cons_self

theorem occurrences_cons_of_ne {member : String × Json} (h : member.1 ≠ name) :
    occurrences name (member :: members) = occurrences name members :=
  List.count_cons_of_ne h

theorem occurrences_pos_iff : 0 < occurrences name members ↔ ∃ json, (name, json) ∈ members := by
  rw [occurrences, List.count_pos_iff, List.mem_map]
  constructor
  · rintro ⟨⟨name, json⟩, hmem, rfl⟩
    exact ⟨json, hmem⟩
  · rintro ⟨json, hmem⟩
    exact ⟨_, hmem, rfl⟩

theorem occurrences_pos_of_mem (h : (name, json) ∈ members) : 0 < occurrences name members :=
  occurrences_pos_iff.mpr ⟨json, h⟩

/-- What a name that is given once has is told by its one member. -/
theorem eq_of_mem_of_mem (hunique : occurrences name members ≤ 1) (h : (name, json) ∈ members)
    (h' : (name, json') ∈ members) : json = json' := by
  obtain ⟨front, back, rfl⟩ := List.append_of_mem h
  rw [occurrences_perm List.perm_middle, occurrences_cons_self, Nat.succ_le_succ_iff,
    Nat.le_zero] at hunique
  obtain heq | hrest := List.mem_cons.mp (List.perm_middle.mem_iff.mp h')
  · exact ((Prod.mk.inj heq).2).symm
  · exact absurd (occurrences_pos_of_mem hrest) (by omega)

/-- The name is given alike: as often, and what it is given is the same. -/
structure SameUnder (name : String) (first second : List (String × Json)) : Prop where
  occurrences_eq : occurrences name first = occurrences name second
  mem_iff : ∀ json, (name, json) ∈ first ↔ (name, json) ∈ second

theorem SameUnder.symm (h : SameUnder name first second) : SameUnder name second first :=
  ⟨h.occurrences_eq.symm, fun json => (h.mem_iff json).symm⟩

theorem SameUnder.trans {third : List (String × Json)} (h : SameUnder name first second)
    (h' : SameUnder name second third) : SameUnder name first third :=
  ⟨h.occurrences_eq.trans h'.occurrences_eq, fun json => (h.mem_iff json).trans (h'.mem_iff json)⟩

theorem sameUnder_of_perm (h : first.Perm second) (name : String) : SameUnder name first second :=
  ⟨occurrences_perm h name, fun _ => h.mem_iff⟩

theorem sameUnder_cons {member : String × Json} (h : member.1 ≠ name)
    (members : List (String × Json)) : SameUnder name (member :: members) members where
  occurrences_eq := occurrences_cons_of_ne h
  mem_iff json := by
    rw [List.mem_cons, or_iff_right]
    rintro rfl
    exact h rfl

/-- What stands under another name does not matter. -/
theorem sameUnder_middle {member : String × Json} (h : member.1 ≠ name)
    (front back : List (String × Json)) :
    SameUnder name (front ++ member :: back) (front ++ back) :=
  (sameUnder_of_perm List.perm_middle name).trans (sameUnder_cons h _)

theorem occurrences_filter (h : name ≠ key) (members : List (String × Json)) :
    occurrences name (members.filter fun member => member.1 ≠ key) = occurrences name members := by
  rw [occurrences, occurrences, List.count_eq_countP, List.countP_map, List.countP_filter,
    List.count_eq_countP, List.countP_map]
  refine List.countP_congr fun member _ => ?_
  rw [Bool.and_eq_true, Function.comp_apply, beq_iff_eq, decide_eq_true_iff]
  exact and_iff_left_of_imp fun hname => hname ▸ h

theorem sameUnder_filter (h : name ≠ key) (members : List (String × Json)) :
    SameUnder name (members.filter fun member => member.1 ≠ key) members :=
  ⟨occurrences_filter h members, fun json => by simp [h]⟩

end Json

open Json

namespace Field

variable {σ : Type} {field : Field σ} {initial value : σ} {json : Json}
  {members first second : List (String × Json)}

/-- Only the members of the name of the field matter. -/
theorem IsRead.of_sameUnder (hsame : SameUnder field.name first second)
    (h : field.IsRead initial first value) : field.IsRead initial second value := by
  cases h with
  | missing hmissing hvalue => exact .missing (hsame.occurrences_eq ▸ hmissing) hvalue
  | given hunique hjson hvalue =>
    exact .given (hsame.occurrences_eq ▸ hunique) ((hsame.mem_iff _).mp hjson) hvalue

theorem isRead_congr (h : SameUnder field.name first second) :
    field.IsRead initial first value ↔ field.IsRead initial second value :=
  ⟨.of_sameUnder h, .of_sameUnder h.symm⟩

theorem isRead_of_missing (h : occurrences field.name members = 0) :
    field.IsRead initial members value ↔ field.get value = field.get initial := by
  constructor
  · rintro (⟨-, hvalue⟩ | ⟨hunique, -, -⟩)
    · exact hvalue
    · omega
  · exact .missing h

theorem isRead_cons_self :
    field.IsRead initial ((field.name, json) :: members) value ↔
      occurrences field.name members = 0 ∧ field.codec.decode json = some (field.get value) := by
  constructor
  · rintro (⟨hmissing, -⟩ | ⟨hunique, hmem, hvalue⟩)
    · simp at hmissing
    · obtain rfl := eq_of_mem_of_mem (Nat.le_of_eq hunique) hmem List.mem_cons_self
      exact ⟨by simpa using hunique, hvalue⟩
  · rintro ⟨hmissing, hvalue⟩
    exact .given (by simp [hmissing]) List.mem_cons_self hvalue

theorem IsRead.occurrences_le (h : field.IsRead initial members value) :
    occurrences field.name members ≤ 1 := by
  cases h <;> omega

/-- What is given for a field is read by its codec. -/
theorem IsRead.decode_eq (h : field.IsRead initial members value)
    (hmem : (field.name, json) ∈ members) : field.codec.decode json = some (field.get value) := by
  cases h with
  | missing hmissing => exact absurd (occurrences_pos_of_mem hmem) (by omega)
  | given hunique hjson hvalue => rwa [eq_of_mem_of_mem (Nat.le_of_eq hunique) hmem hjson]

end Field

namespace Record

variable {σ : Type} {record : Record σ} {field : Field σ} {json : Json} {name : String} {value : σ}
  {members first second : List (String × Json)}

theorem reads_perm (h : first.Perm second) : record.Reads first value ↔ record.Reads second value :=
  forall₂_congr fun _ _ => Field.isRead_congr (sameUnder_of_perm h _)

theorem reads_middle (member : String × Json) (front back : List (String × Json)) :
    record.Reads (front ++ member :: back) value ↔ record.Reads (member :: (front ++ back)) value :=
  reads_perm List.perm_middle

/-- A name that no field has. -/
def Unknown (record : Record σ) (name : String) : Prop :=
  name ∉ record.fields.map (·.name)

instance (record : Record σ) (name : String) : Decidable (record.Unknown name) :=
  inferInstanceAs (Decidable (name ∉ record.fields.map (·.name)))

theorem Unknown.ne (h : record.Unknown name) (hfield : field ∈ record.fields) :
    field.name ≠ name := by
  rintro rfl
  exact h (List.mem_map_of_mem hfield)

theorem occurrences_map_of_unknown (h : record.Unknown name) (write : Field σ → Json) :
    occurrences name (record.fields.map fun field => (field.name, write field)) = 0 := by
  rw [occurrences, List.map_map]
  exact List.count_eq_zero_of_not_mem h

theorem reads_cons_of_unknown (h : record.Unknown name) :
    record.Reads ((name, json) :: members) value ↔ record.Reads members value :=
  forall₂_congr fun _ hfield => Field.isRead_congr (sameUnder_cons (h.ne hfield).symm members)

theorem reads_filter_of_unknown (h : record.Unknown name) :
    record.Reads (members.filter fun member => member.1 ≠ name) value ↔
      record.Reads members value :=
  forall₂_congr fun _ hfield => Field.isRead_congr (sameUnder_filter (h.ne hfield) members)

theorem eq_of_name_eq {field' : Field σ} (hfield : field ∈ record.fields)
    (hfield' : field' ∈ record.fields) (h : field'.name = field.name) : field' = field :=
  List.inj_on_of_nodup_map record.nodup hfield' hfield h

/-- An object that has every field once is read field by field. -/
theorem reads_map (write : Field σ → Json) :
    record.Reads (record.fields.map fun field => (field.name, write field)) value ↔
      ∀ field ∈ record.fields, field.codec.decode (write field) = some (field.get value) := by
  refine forall₂_congr fun field hfield => ?_
  have hmem : (field.name, write field) ∈
      record.fields.map fun field => (field.name, write field) := List.mem_map_of_mem hfield
  constructor
  · exact (·.decode_eq hmem)
  · refine .given (Nat.le_antisymm ?_ (occurrences_pos_of_mem hmem)) hmem
    rw [occurrences, List.map_map]
    exact List.nodup_iff_count.1 record.nodup field.name

end Record

end MigrationScript
