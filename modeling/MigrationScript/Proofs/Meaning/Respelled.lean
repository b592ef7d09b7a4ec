import Mathlib.Data.List.Forall2
import MigrationScript.Proofs.Meaning.Matches
import MigrationScript.Proofs.Meaning.Binding

/-!
# Spellings of arguments

Arguments can change places, get the names of their parameters, be left out where they are usual,
and be put into an array. Each of these is looked at in the list of what the parameters are given.
-/

namespace MigrationScript

/-- The argument under the name of a parameter. -/
def Argument.under (parameter : Parameter) (argument : Argument) : Argument :=
  { argument with name := some parameter.name }

open MigrationScript.Bound

/-- The second arguments spell the first in another way: named arguments change places; arguments in
front get the names of the parameters that they fill, from some of them on; `null` or the usual value
is given to a parameter that has not been given; or one column is given as an array of one. -/
inductive Respelled (parameters : List Parameter) (identifier : Option String) :
    List Argument → List Argument → Prop
  | permuted {first second : List Argument} (hperm : first.Perm second)
      (hnamed : List.Forall₂
        (fun one two => one = two ∨ one.name.isSome = true ∧ two.name.isSome = true) first second) :
      Respelled parameters identifier first second
  | named {arguments before turned : List Argument} (hleading : leading arguments = before ++ turned)
      (hroom : (leading arguments).length ≤ parameters.length) :
      Respelled parameters identifier arguments
        (before ++ List.zipWith Argument.under (parameters.drop before.length) turned ++
          behind arguments)
  | null {arguments : List Argument} {parameter : Parameter} (hparameter : parameter ∈ parameters)
      (hfree : parameter.name ∉ givenNames parameters arguments) (span span' : Span) :
      Respelled parameters identifier arguments
        (arguments ++ [⟨some parameter.name, .constant .null span, span'⟩])
  | default {arguments : List Argument} {name : String} {value : Expr}
      (hparameter : .optional name ∈ parameters) (hdefault : IsDefault identifier name value)
      (hfree : name ∉ givenNames parameters arguments) (span : Span) :
      Respelled parameters identifier arguments (arguments ++ [⟨some name, value, span⟩])
  | noColumns {arguments : List Argument} (hparameter : .optional "referencedColumns" ∈ parameters)
      (hone : "referencedColumn" ∉ givenNames parameters arguments)
      (hfree : "referencedColumns" ∉ givenNames parameters arguments) (span span' : Span) :
      Respelled parameters identifier arguments
        (arguments ++ [⟨some "referencedColumns", .array [] span, span'⟩])
  | plural {before after : List Argument} {singular plural text : String} {span span' : Span}
      (hpair : (singular, plural) ∈ columnPairs)
      (honce : (givenNames parameters
        (before ++ ⟨some singular, .constant (.string text) span, span'⟩ :: after)).count singular = 1)
      (hfree : plural ∉ givenNames parameters
        (before ++ ⟨some singular, .constant (.string text) span, span'⟩ :: after))
      (spans : Span × Span) :
      Respelled parameters identifier
        (before ++ ⟨some singular, .constant (.string text) span, span'⟩ :: after)
        (before ++ ⟨some plural, .array [.constant (.string text) span] spans.1, spans.2⟩ :: after)

namespace Bound

variable {identifier : Option String} {parameters : List Parameter} {one two : Call}

/-- Two calls are bound alike if they fill parameters alike. -/
theorem alike_ofCall (hnodup : (parameters.map (·.name)).Nodup)
    (hfills : Fills parameters one.arguments ↔ Fills parameters two.arguments)
    (hrequired : Fills parameters one.arguments →
      ∀ parameter ∈ parameters, parameter.isRequired = true →
        ((filled one parameters).value? parameter.name).isSome =
          ((filled two parameters).value? parameter.name).isSome)
    (hmatches : Fills parameters one.arguments →
      (filled one parameters).Matches identifier (filled two parameters)) :
    Alike (Matches identifier) (ofCall one parameters) (ofCall two parameters) := by
  have hiff : (∃ bound, ofCall one parameters = .ok bound) ↔
      ∃ bound, ofCall two parameters = .ok bound := by
    simp only [ofCall_eq_ok_iff hnodup]
    constructor
    · rintro ⟨_, hone, -, hvalues⟩
      refine ⟨_, hfills.mp hone, rfl, fun parameter hmem hparameter => ?_⟩
      exact hrequired hone parameter hmem hparameter ▸ hvalues parameter hmem hparameter
    · rintro ⟨_, htwo, -, hvalues⟩
      refine ⟨_, hfills.mpr htwo, rfl, fun parameter hmem hparameter => ?_⟩
      exact hrequired (hfills.mpr htwo) parameter hmem hparameter ▸
        hvalues parameter hmem hparameter
  refine .of_iff hiff fun first second hfirst hsecond => ?_
  obtain ⟨hone, rfl, -⟩ := (ofCall_eq_ok_iff hnodup).mp hfirst
  obtain ⟨-, rfl, -⟩ := (ofCall_eq_ok_iff hnodup).mp hsecond
  exact hmatches hone

/-! ### Each way to spell -/

theorem alike_ofCall_of_value?_eq (hnodup : (parameters.map (·.name)).Nodup)
    (hfills : Fills parameters one.arguments ↔ Fills parameters two.arguments)
    (hvalue : Fills parameters one.arguments →
      ∀ name, (filled one parameters).value? name = (filled two parameters).value? name) :
    Alike (Matches identifier) (ofCall one parameters) (ofCall two parameters) :=
  alike_ofCall hnodup hfills (fun hone parameter _ _ => congrArg _ (hvalue hone parameter.name))
    fun hone => .of_value?_eq (hvalue hone)

section Permuted

variable {arguments others : List Argument} (hperm : arguments.Perm others)
  (hnamed : List.Forall₂
    (fun one two => one = two ∨ one.name.isSome = true ∧ two.name.isSome = true) arguments others)

include hnamed in
theorem leading_permuted : leading arguments = leading others := by
  induction hnamed with
  | nil => rfl
  | @cons first second rest rest' hhead _ ih =>
    obtain rfl | ⟨hfirst, hsecond⟩ := hhead
    · obtain ⟨_ | _, _, _⟩ := first
      · exact congrArg (List.cons _) ih
      · rfl
    · obtain ⟨name, value, span⟩ := first
      obtain ⟨name', value', span'⟩ := second
      obtain ⟨name, rfl⟩ := Option.isSome_iff_exists.mp hfirst
      obtain ⟨name', rfl⟩ := Option.isSome_iff_exists.mp hsecond
      rfl

include hperm hnamed

theorem behind_permuted : (behind arguments).Perm (behind others) := by
  have hwhole : (leading arguments ++ behind arguments).Perm (leading others ++ behind others) := by
    rwa [leading_append_behind, leading_append_behind]
  rw [leading_permuted hnamed] at hwhole
  exact (List.perm_append_left_iff _).mp hwhole

theorem entries_permuted : (entries parameters arguments).Perm (entries parameters others) := by
  rw [entries, entries, leading_permuted hnamed]
  exact (hperm.filterMap _).append_left _

theorem fills_permuted_iff : Fills parameters arguments ↔ Fills parameters others := by
  have hknown {entry : String × Expr} :
      entry ∈ namedEntries arguments ↔ entry ∈ namedEntries others :=
    (hperm.filterMap _).mem_iff
  have honce : (givenNames parameters arguments).Nodup ↔ (givenNames parameters others).Nodup :=
    ((entries_permuted hperm hnamed).map _).nodup_iff
  constructor
  · intro h
    refine ⟨leading_permuted hnamed ▸ h.room, fun argument hmem => ?_, fun entry hmem => ?_,
      honce.mp h.once⟩
    · exact h.named argument ((behind_permuted hperm hnamed).mem_iff.mpr hmem)
    · exact h.known entry (hknown.mpr hmem)
  · intro h
    refine ⟨leading_permuted hnamed ▸ h.room, fun argument hmem => ?_, fun entry hmem => ?_,
      honce.mpr h.once⟩
    · exact h.named argument ((behind_permuted hperm hnamed).mem_iff.mp hmem)
    · exact h.known entry (hknown.mp hmem)

end Permuted

section Turned

variable {arguments before turned : List Argument}

theorem zip_append_right {α β : Type} (names : List α) (before after : List β) :
    names.zip (before ++ after) = names.zip before ++ (names.drop before.length).zip after := by
  induction before generalizing names with
  | nil => rw [List.zip_nil_right]; rfl
  | cons value before ih =>
    cases names with
    | nil => rfl
    | cons name names => exact congrArg (List.cons _) (ih names)

theorem namedEntries_under (left : List Parameter) (turned : List Argument) :
    namedEntries (List.zipWith Argument.under left turned) =
      (left.map (·.name)).zip (turned.map (·.value)) := by
  induction turned generalizing left with
  | nil => rw [List.zipWith_nil_right, List.map_nil, List.zip_nil_right]; rfl
  | cons argument turned ih =>
    cases left with
    | nil => rfl
    | cons parameter left => exact congrArg (List.cons _) (ih left)

theorem isSome_name_under (left : List Parameter) (turned : List Argument) :
    ∀ argument ∈ List.zipWith Argument.under left turned, argument.name.isSome = true := by
  induction turned generalizing left with
  | nil =>
    rw [List.zipWith_nil_right]
    exact fun _ hmem => absurd hmem List.not_mem_nil
  | cons argument turned ih =>
    cases left with
    | nil => exact fun _ hmem => absurd hmem List.not_mem_nil
    | cons parameter left => exact List.forall_mem_cons.mpr ⟨rfl, ih left⟩

theorem leading_behind : leading (behind arguments) = [] := by
  induction arguments with
  | nil => rfl
  | cons argument rest ih =>
    obtain ⟨_ | _, _, _⟩ := argument
    · exact ih
    · rfl

theorem leading_named_append_behind {named : List Argument}
    (h : ∀ argument ∈ named, argument.name.isSome = true) :
    leading (named ++ behind arguments) = [] := by
  cases named with
  | nil => exact leading_behind
  | cons argument named =>
    obtain ⟨name, value, span⟩ := argument
    obtain ⟨name, rfl⟩ := Option.isSome_iff_exists.mp (h _ List.mem_cons_self)
    rfl

variable (hleading : leading arguments = before ++ turned)

include hleading

theorem leading_turned {left : List Parameter} :
    leading (before ++ List.zipWith Argument.under left turned ++ behind arguments) = before := by
  have hbefore : ∀ argument ∈ before, argument.name.isNone = true := fun argument hmem =>
    name_of_mem_leading (hleading ▸ List.mem_append_left turned hmem)
  rw [List.append_assoc, leading_append_of_unnamed hbefore,
    leading_named_append_behind (isSome_name_under left turned), List.append_nil]

theorem behind_turned {left : List Parameter} :
    behind (before ++ List.zipWith Argument.under left turned ++ behind arguments) =
      List.zipWith Argument.under left turned ++ behind arguments := by
  have hwhole := @leading_append_behind
    (before ++ List.zipWith Argument.under left turned ++ behind arguments)
  rw [leading_turned hleading, List.append_assoc] at hwhole
  rw [List.append_assoc]
  exact List.append_cancel_left hwhole

theorem namedEntries_turned {left : List Parameter} :
    namedEntries (before ++ List.zipWith Argument.under left turned ++ behind arguments) =
      (left.map (·.name)).zip (turned.map (·.value)) ++ namedEntries arguments := by
  have hbefore : ∀ argument ∈ before, argument.name.isNone = true := fun argument hmem =>
    name_of_mem_leading (hleading ▸ List.mem_append_left turned hmem)
  rw [namedEntries_append, namedEntries_append, namedEntries_of_unnamed hbefore, List.nil_append,
    namedEntries_under, namedEntries_behind]

/-- An argument in front that gets the name of its parameter gives it the same value. -/
theorem entries_turned :
    entries parameters (before ++
        List.zipWith Argument.under (parameters.drop before.length) turned ++ behind arguments) =
      entries parameters arguments := by
  rw [entries, entries, leading_turned hleading, namedEntries_turned hleading, hleading,
    List.map_append, zip_append_right, List.length_map, List.map_drop, List.append_assoc]

theorem fills_turned_iff (hroom : (leading arguments).length ≤ parameters.length) :
    Fills parameters arguments ↔
      Fills parameters (before ++
        List.zipWith Argument.under (parameters.drop before.length) turned ++
          behind arguments) := by
  have hnames := isSome_name_under (parameters.drop before.length) turned
  have hturned : ∀ entry ∈
      ((parameters.drop before.length).map (·.name)).zip (turned.map (·.value)),
      entry.1 ∈ parameters.map (·.name) := by
    intro entry hmem
    have hdrop : entry.1 ∈ (parameters.drop before.length).map (·.name) :=
      (List.of_mem_zip hmem).1
    rw [List.map_drop] at hdrop
    exact List.mem_of_mem_drop hdrop
  constructor
  · intro h
    refine ⟨?_, ?_, ?_, ?_⟩
    · rw [leading_turned hleading]
      rw [hleading, List.length_append] at hroom
      exact Nat.le_of_add_right_le hroom
    · rw [behind_turned hleading, List.forall_mem_append]
      exact ⟨hnames, h.named⟩
    · rw [namedEntries_turned hleading, List.forall_mem_append]
      exact ⟨hturned, h.known⟩
    · rw [givenNames, entries_turned hleading]
      exact h.once
  · rintro ⟨-, hnamed, hknown, honce⟩
    rw [behind_turned hleading, List.forall_mem_append] at hnamed
    rw [namedEntries_turned hleading, List.forall_mem_append] at hknown
    rw [givenNames, entries_turned hleading] at honce
    exact ⟨hroom, hnamed.2, hknown.2, honce⟩

end Turned

section Added

variable {arguments : List Argument} {name : String} {value : Expr} {span : Span}

theorem entries_added :
    entries parameters (arguments ++ [⟨some name, value, span⟩]) =
      entries parameters arguments ++ [(name, value)] :=
  entries_append_named

theorem value?_eq_none_of_free {call : Call}
    (hfree : name ∉ givenNames parameters call.arguments) :
    (filled call parameters).value? name = none :=
  value?_eq_none hfree

variable (htwo : two.arguments = one.arguments ++ [⟨some name, value, span⟩])

include htwo

theorem value?_added {other : String} (hne : other ≠ name) :
    (filled one parameters).value? other = (filled two parameters).value? other := by
  refine value?_congr ?_
  rw [filled, filled, htwo, entries_added, lookup_middle hne, List.append_nil]

theorem lookup_added_self (hfree : name ∉ givenNames parameters one.arguments) :
    (filled two parameters).given.lookup name = some value := by
  rw [filled, htwo, entries_added]
  exact lookup_middle_self hfree

end Added

section Plural

variable {before after : List Argument} {singular plural text : String} {span span' : Span}
  {value : Expr}

theorem not_mem_of_count_eq_one {names others : List String} {name : String}
    (h : (names ++ name :: others).count name = 1) : name ∉ names ++ others := by
  rw [List.count_append, List.count_cons_self] at h
  rw [← List.count_eq_zero, List.count_append]
  omega

/-- A column that is given once may be given under another name. -/
theorem fills_renamed_iff {other : Expr}
    (hsingular : singular ∈ parameters.map (·.name)) (hplural : plural ∈ parameters.map (·.name))
    (honce : (givenNames parameters
      (before ++ ⟨some singular, value, span⟩ :: after)).count singular = 1)
    (hfree : plural ∉ givenNames parameters (before ++ ⟨some singular, value, span⟩ :: after)) :
    Fills parameters (before ++ ⟨some singular, value, span⟩ :: after) ↔
      Fills parameters (before ++ ⟨some plural, other, span'⟩ :: after) := by
  rw [givenNames_append_named] at honce hfree
  have honce := not_mem_of_count_eq_one honce
  rw [List.mem_append, List.mem_cons, not_or, not_or] at hfree
  rw [fills_append_named_iff, fills_append_named_iff]
  refine and_congr_right fun hafter => and_congr_right fun _ => ?_
  rw [givenNames_append_of_named hafter]
  refine iff_of_true ⟨hsingular, honce⟩ ⟨hplural, ?_⟩
  rw [List.mem_append, not_or]
  exact ⟨hfree.1, hfree.2.2⟩

end Plural

/-- What a parameter list has to be like for the spelling of arguments not to matter: two parameters
for columns are both optional, and a parameter for several columns without one for a single column
takes a function. -/
structure Regular (parameters : List Parameter) : Prop where
  nodup : (parameters.map (·.name)).Nodup
  pairs : ∀ pair ∈ columnPairs, pair.1 ∈ parameters.map (·.name) →
    .optional pair.1 ∈ parameters ∧ .optional pair.2 ∈ parameters
  alone : ∀ pair ∈ columnPairs, pair.1 ∉ parameters.map (·.name) →
    pair.2 ∈ parameters.map (·.name) → pair = ("column", "columns")

theorem Regular.ne_of_isRequired (h : Regular parameters) {name : String}
    (hoptional : .optional name ∈ parameters) {parameter : Parameter} (hmem : parameter ∈ parameters)
    (hrequired : parameter.isRequired = true) : parameter.name ≠ name := by
  intro heq
  have hsame : parameter = .optional name := List.inj_on_of_nodup_map h.nodup hmem hoptional heq
  rw [hsame] at hrequired
  cases hrequired

end Bound

namespace Respelled

variable {parameters : List Parameter} {identifier : Option String} {first second : Call}

open MigrationScript.Bound

theorem alike_ofCall_permuted (hregular : Regular parameters)
    (hperm : first.arguments.Perm second.arguments)
    (hnamed : List.Forall₂
      (fun one two => one = two ∨ one.name.isSome = true ∧ two.name.isSome = true)
      first.arguments second.arguments) :
    Alike (Matches identifier) (ofCall first parameters) (ofCall second parameters) :=
  alike_ofCall_of_value?_eq hregular.nodup (fills_permuted_iff hperm hnamed) fun hfills name =>
    value?_congr (lookup_of_perm (entries_permuted hperm hnamed) hfills.once name)

theorem alike_ofCall_turned (hregular : Regular parameters) {before turned : List Argument}
    (hleading : leading first.arguments = before ++ turned)
    (hroom : (leading first.arguments).length ≤ parameters.length)
    (hsecond : second.arguments = before ++
      List.zipWith Argument.under (parameters.drop before.length) turned ++
        behind first.arguments) :
    Alike (Matches identifier) (ofCall first parameters) (ofCall second parameters) := by
  refine alike_ofCall_of_value?_eq hregular.nodup ?_ fun _ name => value?_congr ?_
  · rw [hsecond]
    exact fills_turned_iff hleading hroom
  · rw [filled, filled, hsecond, entries_turned hleading]

section Added

variable {name : String} {value : Expr} {span : Span}
  (hfree : name ∉ givenNames parameters first.arguments)
  (hsecond : second.arguments = first.arguments ++ [⟨some name, value, span⟩])

include hfree hsecond

theorem fills_iff_of_added (hparameter : name ∈ parameters.map (·.name)) :
    Fills parameters first.arguments ↔ Fills parameters second.arguments := by
  rw [hsecond]
  exact fills_added_iff hparameter hfree

theorem alike_ofCall_null (hregular : Regular parameters)
    (hparameter : name ∈ parameters.map (·.name)) {at_ : Span}
    (hnull : value = .constant .null at_) :
    Alike (Matches identifier) (ofCall first parameters) (ofCall second parameters) := by
  refine alike_ofCall_of_value?_eq hregular.nodup (fills_iff_of_added hfree hsecond hparameter)
    fun _ other => ?_
  by_cases heq : other = name
  · have hlookup := lookup_added_self hsecond hfree
    rw [heq, value?_eq_none_of_free hfree, value?, hlookup, hnull]
  · exact value?_added hsecond heq

/-- An optional parameter gets a value that matches its absence. -/
theorem alike_ofCall_added (hregular : Regular parameters)
    (hparameter : .optional name ∈ parameters)
    (hmatches : (filled first parameters).Matches identifier (filled second parameters)) :
    Alike (Matches identifier) (ofCall first parameters) (ofCall second parameters) := by
  have hname : name ∈ parameters.map (·.name) := List.mem_map_of_mem hparameter
  refine alike_ofCall hregular.nodup (fills_iff_of_added hfree hsecond hname)
    (fun _ parameter hmem hrequired => ?_) fun _ => hmatches
  exact congrArg _ (value?_added hsecond (hregular.ne_of_isRequired hparameter hmem hrequired))

theorem alike_ofCall_default (hregular : Regular parameters)
    (hparameter : .optional name ∈ parameters) (hdefault : IsDefault identifier name value) :
    Alike (Matches identifier) (ofCall first parameters) (ofCall second parameters) := by
  refine alike_ofCall_added hfree hsecond hregular hparameter
    (.of_default hdefault (value?_eq_none_of_free hfree) ?_ fun _ => value?_added hsecond)
  rw [value?, lookup_added_self hsecond hfree]
  cases hdefault <;> rfl

theorem alike_ofCall_noColumns (hregular : Regular parameters) {singular : String}
    (hpair : (singular, name) ∈ columnPairs) (hparameter : .optional name ∈ parameters)
    (hone : singular ∉ givenNames parameters first.arguments) {at_ : Span}
    (harray : value = .array [] at_) :
    Alike (Matches identifier) (ofCall first parameters) (ofCall second parameters) := by
  have hnone : (filled first parameters).value? name = none := value?_eq_none_of_free hfree
  have hsingular : (filled first parameters).value? singular = none := value?_eq_none_of_free hone
  have hsome : (filled second parameters).value? name = some (.array [] at_) := by
    rw [value?, lookup_added_self hsecond hfree, harray]
  have hne : singular ≠ name := by
    have hdistinct : ∀ pair ∈ columnPairs, pair.1 ≠ pair.2 := by decide
    exact hdistinct _ hpair
  refine alike_ofCall_added hfree hsecond hregular hparameter
    (.of_array hpair hnone hsome (fun _ _ => value?_added hsecond) ?_)
  rw [columns_eq_nil hsingular hnone,
    columns_of_plural ((value?_added hsecond hne).symm.trans hsingular) hsome]
  exact .ok rfl

end Added

section Plural

variable {before after : List Argument} {singular plural text : String} {span span' : Span}
  {spans : Span × Span}
  (hfirst : first.arguments =
    before ++ ⟨some singular, .constant (.string text) span, span'⟩ :: after)
  (hsecond : second.arguments =
    before ++ ⟨some plural, .array [.constant (.string text) span] spans.1, spans.2⟩ :: after)
  (honce : (givenNames parameters first.arguments).count singular = 1)
  (hplural : plural ∉ givenNames parameters first.arguments)

include hsecond hfirst hplural in
theorem value?_plural :
    (filled second parameters).value? plural =
      some (.array [.constant (.string text) span] spans.1) := by
  rw [hfirst, givenNames_append_named, List.mem_append, not_or] at hplural
  have hlookup : (filled second parameters).given.lookup plural =
      some (.array [.constant (.string text) span] spans.1) := by
    rw [filled, hsecond, entries_append_named]
    exact lookup_middle_self hplural.1
  rw [value?, hlookup]

include hfirst hsecond honce hplural

/-- One column is the same as an array of one. -/
theorem matches_plural (hpair : (singular, plural) ∈ columnPairs) :
    (filled first parameters).Matches identifier (filled second parameters) := by
  have hne : singular ≠ plural := by
    have hdistinct : ∀ pair ∈ columnPairs, pair.1 ≠ pair.2 := by decide
    exact hdistinct _ hpair
  have hnone : (filled first parameters).value? plural = none := value?_eq_none_of_free hplural
  have hsome := value?_plural hfirst hsecond hplural
  rw [hfirst, givenNames_append_named] at honce
  have hothers := not_mem_of_count_eq_one honce
  rw [List.mem_append, not_or] at hothers
  have htext : (filled first parameters).value? singular =
      some (.constant (.string text) span) := by
    have hlookup : (filled first parameters).given.lookup singular =
        some (.constant (.string text) span) := by
      rw [filled, hfirst, entries_append_named]
      exact lookup_middle_self hothers.1
    rw [value?, hlookup]
  have hgone : (filled second parameters).value? singular = none := by
    refine value?_eq_none ?_
    rw [filled, hsecond, entries_append_named, List.map_append, List.map_cons, List.mem_append,
      List.mem_cons, not_or, not_or]
    exact ⟨hothers.1, hne, hothers.2⟩
  refine .of_array hpair hnone hsome (fun name hsingular hplural => value?_congr ?_) ?_
  · rw [filled, filled, hfirst, hsecond, entries_append_named, entries_append_named,
      lookup_middle hsingular, lookup_middle hplural]
  · rw [columns_of_singular htext hnone, columns_of_plural hgone hsome]
    exact .ok rfl

theorem alike_ofCall_plural (hregular : Regular parameters)
    (hpair : (singular, plural) ∈ columnPairs) (hparameter : singular ∈ parameters.map (·.name)) :
    Alike (Matches identifier) (ofCall first parameters) (ofCall second parameters) := by
  obtain ⟨hone, hseveral⟩ := hregular.pairs _ hpair hparameter
  have hmatches : (filled first parameters).Matches identifier (filled second parameters) :=
    matches_plural hfirst hsecond honce hplural hpair
  refine alike_ofCall hregular.nodup ?_ (fun _ parameter hmem hrequired => ?_) fun _ => hmatches
  · rw [hfirst] at honce hplural
    rw [hfirst, hsecond]
    exact fills_renamed_iff hparameter (List.mem_map_of_mem hseveral) honce hplural
  · have hsingular := hregular.ne_of_isRequired hone hmem hrequired
    have hplural := hregular.ne_of_isRequired hseveral hmem hrequired
    refine congrArg _ (value?_congr ?_)
    rw [filled, filled, hfirst, hsecond, entries_append_named, entries_append_named,
      lookup_middle hsingular, lookup_middle hplural]

omit honce in
/-- Without the parameter for one column the array is an argument for no parameter, or for one that
takes a function. -/
theorem bind_fails_of_plural {α : Type} {further : Bound → Except ScriptError α}
    (hregular : Regular parameters) (hpair : (singular, plural) ∈ columnPairs)
    (hparameter : singular ∉ parameters.map (·.name))
    (harray : "columns" ∈ parameters.map (·.name) → "column" ∉ parameters.map (·.name) →
      ∀ (bound : Bound) (items : List Expr) (span : Span),
        bound.value? "columns" = some (.array items span) →
          ∃ error, further bound = .error error) :
    ∃ error, (ofCall second parameters >>= further) = .error error := by
  cases hbound : ofCall second parameters with
  | error error => exact ⟨error, rfl⟩
  | ok bound =>
    obtain ⟨hfills, rfl, -⟩ := (ofCall_eq_ok_iff hregular.nodup).mp hbound
    have hvalue := value?_plural hfirst hsecond hplural
    rw [hsecond, fills_append_named_iff] at hfills
    cases hregular.alone _ hpair hparameter hfills.2.2.1
    exact harray hfills.2.2.1 hparameter _ _ _ hvalue

end Plural

/-- What reads the values of the parameters does not see how the arguments are spelled, if it fails
where an array is given to a parameter for columns that takes a function. -/
theorem alike_bind {α : Type} {further : Bound → Except ScriptError α}
    (h : Respelled parameters identifier first.arguments second.arguments)
    (hregular : Regular parameters)
    (hmatches : ∀ one two : Bound, one.Matches identifier two → Alike Eq (further one) (further two))
    (harray : "columns" ∈ parameters.map (·.name) → "column" ∉ parameters.map (·.name) →
      ∀ (bound : Bound) (items : List Expr) (span : Span),
        bound.value? "columns" = some (.array items span) →
          ∃ error, further bound = .error error) :
    Alike Eq (ofCall first parameters >>= further) (ofCall second parameters >>= further) := by
  have hbind (hbound : Alike (Matches identifier) (ofCall first parameters)
      (ofCall second parameters)) :
      Alike Eq (ofCall first parameters >>= further) (ofCall second parameters >>= further) :=
    hbound.bind hmatches
  generalize hfirst : first.arguments = arguments at h
  generalize hsecond : second.arguments = others at h
  cases h with
  | permuted hperm hnamed =>
    subst hfirst hsecond
    exact hbind (alike_ofCall_permuted hregular hperm hnamed)
  | named hleading hroom =>
    subst hfirst
    exact hbind (alike_ofCall_turned hregular hleading hroom hsecond)
  | null hparameter hfree =>
    subst hfirst
    exact hbind (alike_ofCall_null hfree hsecond hregular (List.mem_map_of_mem hparameter) rfl)
  | default hparameter hdefault hfree =>
    subst hfirst
    exact hbind (alike_ofCall_default hfree hsecond hregular hparameter hdefault)
  | noColumns hparameter hone hfree =>
    subst hfirst
    exact hbind (alike_ofCall_noColumns hfree hsecond hregular (by decide) hparameter hone rfl)
  | @plural before after singular plural text span span' hpair honce hfree spans =>
    rw [← hfirst] at honce hfree
    by_cases hparameter : singular ∈ parameters.map (·.name)
    · exact hbind (alike_ofCall_plural hfirst hsecond honce hfree hregular hpair hparameter)
    · have hfails : ∃ error, ofCall first parameters = .error error :=
        exists_ofCall_eq_error hfirst hregular.nodup hparameter
      obtain ⟨_, hfails⟩ := hfails
      obtain ⟨_, hfails'⟩ :=
        bind_fails_of_plural hfirst hsecond hfree hregular hpair hparameter harray
      rw [hfails, hfails']
      exact .error

end Respelled

end MigrationScript

