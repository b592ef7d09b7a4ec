import Mathlib.Data.List.Forall2
import Mathlib.Data.List.Nodup
import MigrationScript.Meaning.Value
import MigrationScript.Proofs.Meaning.Steps

namespace MigrationScript

/-- Under distinct names a lookup finds what is there. -/
theorem lookup_eq_some_iff_mem {α : Type} {entries : List (String × α)}
    (hnodup : (entries.map (·.1)).Nodup) {name : String} {value : α} :
    entries.lookup name = some value ↔ (name, value) ∈ entries := by
  constructor
  · intro hlookup
    obtain ⟨before, after, hentries, -⟩ := List.lookup_eq_some_iff.mp hlookup
    rw [hentries]
    exact List.mem_append_right before List.mem_cons_self
  · intro hmem
    obtain ⟨before, after, hentries⟩ := List.append_of_mem hmem
    refine List.lookup_eq_some_iff.mpr ⟨before, after, hentries, fun entry hentry => ?_⟩
    rw [hentries, List.map_append, List.map_cons] at hnodup
    have hne : entry.1 ≠ name := (List.nodup_append.mp hnodup).2.2 entry.1
      (List.mem_map_of_mem hentry) name List.mem_cons_self
    exact bne_iff_ne.mpr hne.symm

theorem lookup_of_perm {α : Type} {first second : List (String × α)} (hperm : first.Perm second)
    (hnodup : (first.map (·.1)).Nodup) (name : String) : first.lookup name = second.lookup name := by
  have hnodup' : (second.map (·.1)).Nodup := (hperm.map (·.1)).nodup hnodup
  ext value
  rw [lookup_eq_some_iff_mem hnodup, lookup_eq_some_iff_mem hnodup', hperm.mem_iff]

/-- Two arguments for the same parameter whose values are related. -/
structure Argument.Related (related : Expr → Expr → Prop) (first second : Argument) : Prop where
  name_eq : first.name = second.name
  value : related first.value second.value

namespace Bound

/-- The arguments in front of the first that has a name. -/
def leading (arguments : List Argument) : List Argument :=
  arguments.takeWhile (·.name.isNone)

/-- The arguments from the first that has a name. -/
def behind (arguments : List Argument) : List Argument :=
  arguments.dropWhile (·.name.isNone)

/-- The values that have names, under their names. -/
def namedEntries (arguments : List Argument) : List (String × Expr) :=
  arguments.filterMap fun argument => argument.name.map (·, argument.value)

/-- The values of the arguments under the names of the parameters they are for. The arguments in
front fill the parameters in order. -/
def entries (parameters : List Parameter) (arguments : List Argument) : List (String × Expr) :=
  (parameters.map (·.name)).zip ((leading arguments).map (·.value)) ++ namedEntries arguments

/-- The names of the parameters that are given, each as often as it is given. -/
def givenNames (parameters : List Parameter) (arguments : List Argument) : List String :=
  (entries parameters arguments).map (·.1)

/-- The arguments can be given to parameters: there is one for each argument, an argument behind a
named one has a name too, and no parameter is given twice. -/
structure Fills (parameters : List Parameter) (arguments : List Argument) : Prop where
  room : (leading arguments).length ≤ parameters.length
  named : ∀ argument ∈ behind arguments, argument.name.isSome = true
  known : ∀ entry ∈ namedEntries arguments, entry.1 ∈ parameters.map (·.name)
  once : (givenNames parameters arguments).Nodup

section Arguments

variable {argument : Argument} {name : String} {value : Expr} {span : Span}
  {rest : List Argument} {parameter : Parameter} {parameters : List Parameter}

@[simp]
theorem entries_nil : entries parameters [] = [] := by
  rw [entries, leading, List.takeWhile_nil, List.map_nil, List.zip_nil_right]
  rfl

@[simp]
theorem leading_named : leading (⟨some name, value, span⟩ :: rest) = [] :=
  rfl

@[simp]
theorem behind_named :
    behind (⟨some name, value, span⟩ :: rest) = ⟨some name, value, span⟩ :: rest :=
  rfl

@[simp]
theorem namedEntries_named :
    namedEntries (⟨some name, value, span⟩ :: rest) = (name, value) :: namedEntries rest :=
  rfl

@[simp]
theorem entries_named :
    entries parameters (⟨some name, value, span⟩ :: rest) = (name, value) :: namedEntries rest := by
  rw [entries, leading_named, List.map_nil, List.zip_nil_right, List.nil_append, namedEntries_named]

@[simp]
theorem leading_positional :
    leading (⟨none, value, span⟩ :: rest) = ⟨none, value, span⟩ :: leading rest :=
  rfl

@[simp]
theorem behind_positional : behind (⟨none, value, span⟩ :: rest) = behind rest :=
  rfl

@[simp]
theorem namedEntries_positional :
    namedEntries (⟨none, value, span⟩ :: rest) = namedEntries rest :=
  rfl

@[simp]
theorem entries_positional :
    entries (parameter :: parameters) (⟨none, value, span⟩ :: rest) =
      (parameter.name, value) :: entries parameters rest :=
  rfl

end Arguments

section Add

variable {method : String} {parameters left : List Parameter} {given result : List (String × Expr)}
  {arguments : List Argument}

theorem add_nil : add method parameters given left [] = .ok given := by
  unfold add
  rfl

theorem add_positional {parameter : Parameter} {value : Expr} {span : Span}
    {rest : List Argument} :
    add method parameters given (parameter :: left) (⟨none, value, span⟩ :: rest) =
      add method parameters (given ++ [(parameter.name, value)]) left rest :=
  rfl

theorem any_beq_eq_true_iff {α : Type} {view : α → String} {items : List α} {name : String} :
    items.any (fun item => view item == name) = true ↔ name ∈ items.map view := by
  rw [List.any_eq_true, List.mem_map]
  simp only [beq_iff_eq]

/-- The step over a named argument: its name is that of a parameter that has not been given. -/
theorem addNamed_cons_eq_ok_iff {name : String} {value : Expr} {span : Span} {rest : List Argument} :
    addNamed method parameters given (⟨some name, value, span⟩ :: rest) = .ok result ↔
      name ∈ parameters.map (·.name) ∧ name ∉ given.map (·.1) ∧
        addNamed method parameters (given ++ [(name, value)]) rest = .ok result := by
  rw [addNamed]
  dsimp only
  split
  · rename_i hunknown
    have hnot : name ∉ parameters.map (·.name) := by
      rw [← @any_beq_eq_true_iff Parameter (·.name), Bool.not_eq_true, ← Bool.not_eq_true']
      exact hunknown
    exact iff_of_false (by rintro ⟨⟩) fun h => hnot h.1
  split
  · rename_i hrepeated
    exact iff_of_false (by rintro ⟨⟩) fun h => h.2.1 (any_beq_eq_true_iff.mp hrepeated)
  · rename_i hknown hfresh
    rw [Bool.not_eq_true', Bool.not_eq_false] at hknown
    exact ⟨fun h => ⟨any_beq_eq_true_iff.mp hknown,
      fun hmem => hfresh (any_beq_eq_true_iff.mpr hmem), h⟩, fun h => h.2.2⟩

/-- Named arguments are added if their names are those of parameters that have not been given. -/
theorem addNamed_eq_ok_iff (hgiven : (given.map (·.1)).Nodup) :
    addNamed method parameters given arguments = .ok result ↔
      (∀ argument ∈ arguments, argument.name.isSome = true) ∧
        (∀ entry ∈ namedEntries arguments, entry.1 ∈ parameters.map (·.name)) ∧
        ((given ++ namedEntries arguments).map (·.1)).Nodup ∧
        result = given ++ namedEntries arguments := by
  induction arguments generalizing given with
  | nil =>
    have hnil : namedEntries [] = [] := rfl
    rw [addNamed, hnil, List.append_nil, Except.ok.injEq]
    exact ⟨fun heq => ⟨fun _ hmem => absurd hmem List.not_mem_nil,
      fun _ hmem => absurd hmem List.not_mem_nil, hgiven, heq.symm⟩, fun h => h.2.2.2.symm⟩
  | cons argument rest ih =>
    obtain ⟨name, value, span⟩ := argument
    cases name with
    | none => exact iff_of_false (by rintro ⟨⟩) fun h => absurd (h.1 _ List.mem_cons_self) (by simp)
    | some name =>
      have hgiven' (hfresh : name ∉ given.map (·.1)) :
          ((given ++ [(name, value)]).map (·.1)).Nodup := by
        rw [List.map_append]
        exact hgiven.append (List.nodup_singleton name) (List.disjoint_singleton.mpr hfresh)
      rw [addNamed_cons_eq_ok_iff, namedEntries_named, List.forall_mem_cons, List.forall_mem_cons]
      constructor
      · rintro ⟨hknown, hfresh, hrest⟩
        rw [ih (hgiven' hfresh), List.append_assoc, List.singleton_append] at hrest
        obtain ⟨hnamed, hknown', hnodup, hresult⟩ := hrest
        exact ⟨⟨rfl, hnamed⟩, ⟨hknown, hknown'⟩, hnodup, hresult⟩
      · rintro ⟨⟨-, hnamed⟩, ⟨hknown, hknown'⟩, hnodup, hresult⟩
        have hfresh : name ∉ given.map (·.1) := by
          intro hmem
          rw [List.map_append, List.nodup_append] at hnodup
          exact hnodup.2.2 name hmem name List.mem_cons_self rfl
        refine ⟨hknown, hfresh, ?_⟩
        rw [ih (hgiven' hfresh), List.append_assoc, List.singleton_append]
        exact ⟨hnamed, hknown', hnodup, hresult⟩

/-- Arguments are added if those in front have parameters left and the others have the names of
further parameters. -/
theorem add_eq_ok_iff (hnodup : (given.map (·.1) ++ left.map (·.name)).Nodup) :
    add method parameters given left arguments = .ok result ↔
      (leading arguments).length ≤ left.length ∧
        (∀ argument ∈ behind arguments, argument.name.isSome = true) ∧
        (∀ entry ∈ namedEntries arguments, entry.1 ∈ parameters.map (·.name)) ∧
        ((given ++ entries left arguments).map (·.1)).Nodup ∧
        result = given ++ entries left arguments := by
  -- The parameters that have been filled are among the given ones; the induction moves them there.
  induction arguments generalizing given left with
  | nil =>
    have hgiven : (given.map (·.1)).Nodup := (List.nodup_append.mp hnodup).1
    rw [add_nil, entries_nil, List.append_nil, Except.ok.injEq]
    exact ⟨fun heq => ⟨Nat.zero_le _, fun _ hmem => absurd hmem List.not_mem_nil,
      fun _ hmem => absurd hmem List.not_mem_nil, hgiven, heq.symm⟩, fun h => h.2.2.2.2.symm⟩
  | cons argument rest ih =>
    obtain ⟨name, value, span⟩ := argument
    cases name with
    | some name =>
      have hgiven : (given.map (·.1)).Nodup := (List.nodup_append.mp hnodup).1
      have hadd : add method parameters given left (⟨some name, value, span⟩ :: rest) =
          addNamed method parameters given (⟨some name, value, span⟩ :: rest) := by
        unfold add
        rfl
      rw [hadd, addNamed_eq_ok_iff hgiven, behind_named, entries_named, namedEntries_named,
        leading_named]
      exact ⟨fun h => ⟨Nat.zero_le _, h⟩, fun h => h.2⟩
    | none =>
      cases left with
      | nil =>
        constructor
        · rintro ⟨⟩
        · exact fun h => absurd h.1 (Nat.not_succ_le_zero _)
      | cons parameter left =>
        have hnodup' : ((given ++ [(parameter.name, value)]).map (·.1) ++
            left.map (·.name)).Nodup := by
          rw [List.map_append, List.append_assoc]
          exact hnodup
        rw [add_positional, ih hnodup', entries_positional, behind_positional,
          namedEntries_positional, leading_positional, List.append_assoc, List.singleton_append,
          List.length_cons, List.length_cons, Nat.add_le_add_iff_right]

end Add

/-! ### Arguments with and without names -/

section Lists

variable {before after rest arguments : List Argument} {name : String} {value : Expr} {span : Span}
  {parameters : List Parameter}

theorem leading_append_behind : leading arguments ++ behind arguments = arguments :=
  List.takeWhile_append_dropWhile

theorem name_of_mem_leading {argument : Argument} (h : argument ∈ leading arguments) :
    argument.name.isNone = true :=
  List.all_eq_true.mp List.all_takeWhile argument h

theorem leading_append_of_unnamed (h : ∀ argument ∈ before, argument.name.isNone = true) :
    leading (before ++ rest) = before ++ leading rest :=
  List.takeWhile_append_of_pos h

theorem leading_of_unnamed (h : ∀ argument ∈ arguments, argument.name.isNone = true) :
    leading arguments = arguments := by
  have happend := @leading_append_of_unnamed arguments [] h
  rwa [List.append_nil, show leading [] = [] from rfl, List.append_nil] at happend

theorem behind_of_unnamed (h : ∀ argument ∈ arguments, argument.name.isNone = true) :
    behind arguments = [] := by
  have happend := @leading_append_behind arguments
  rwa [leading_of_unnamed h, List.append_right_eq_self] at happend

theorem namedEntries_append :
    namedEntries (before ++ rest) = namedEntries before ++ namedEntries rest :=
  List.filterMap_append

theorem namedEntries_of_unnamed (h : ∀ argument ∈ before, argument.name.isNone = true) :
    namedEntries before = [] := by
  refine List.filterMap_eq_nil_iff.mpr fun argument hmem => ?_
  rw [Option.isNone_iff_eq_none.mp (h argument hmem)]
  rfl

theorem namedEntries_behind : namedEntries (behind arguments) = namedEntries arguments := by
  have hnone : namedEntries (leading arguments) = [] :=
    namedEntries_of_unnamed fun _ => name_of_mem_leading
  conv_rhs =>
    rw [← @leading_append_behind arguments, namedEntries_append, hnone, List.nil_append]

theorem leading_append_named :
    leading (before ++ ⟨some name, value, span⟩ :: after) = leading before := by
  induction before with
  | nil => rfl
  | cons argument rest ih =>
    obtain ⟨_ | _, _, _⟩ := argument
    · exact congrArg (List.cons _) ih
    · rfl

theorem behind_append_named :
    behind (before ++ ⟨some name, value, span⟩ :: after) =
      behind before ++ ⟨some name, value, span⟩ :: after := by
  induction before with
  | nil => rfl
  | cons argument rest ih =>
    obtain ⟨_ | _, _, _⟩ := argument
    · exact ih
    · rfl

theorem entries_append_named :
    entries parameters (before ++ ⟨some name, value, span⟩ :: after) =
      entries parameters before ++ (name, value) :: namedEntries after := by
  rw [entries, leading_append_named, namedEntries_append, namedEntries_named, ← List.append_assoc]
  rfl

theorem leading_append_of_named (h : ∀ argument ∈ after, argument.name.isSome = true) :
    leading (before ++ after) = leading before := by
  cases after with
  | nil => rw [List.append_nil]
  | cons argument after =>
    obtain ⟨name, value, span⟩ := argument
    obtain ⟨name, rfl⟩ := Option.isSome_iff_exists.mp (h _ List.mem_cons_self)
    exact leading_append_named

theorem behind_append_of_named (h : ∀ argument ∈ after, argument.name.isSome = true) :
    behind (before ++ after) = behind before ++ after := by
  cases after with
  | nil => rw [List.append_nil, List.append_nil]
  | cons argument after =>
    obtain ⟨name, value, span⟩ := argument
    obtain ⟨name, rfl⟩ := Option.isSome_iff_exists.mp (h _ List.mem_cons_self)
    exact behind_append_named

theorem entries_append_of_named (h : ∀ argument ∈ after, argument.name.isSome = true) :
    entries parameters (before ++ after) = entries parameters before ++ namedEntries after := by
  rw [entries, leading_append_of_named h, namedEntries_append, ← List.append_assoc]
  rfl

theorem givenNames_append_named :
    givenNames parameters (before ++ ⟨some name, value, span⟩ :: after) =
      (entries parameters before).map (·.1) ++ name :: (namedEntries after).map (·.1) := by
  rw [givenNames, entries_append_named, List.map_append, List.map_cons]

theorem givenNames_append_of_named (h : ∀ argument ∈ after, argument.name.isSome = true) :
    givenNames parameters (before ++ after) =
      (entries parameters before).map (·.1) ++ (namedEntries after).map (·.1) := by
  rw [givenNames, entries_append_of_named h, List.map_append]

/-- What a named argument adds to what the arguments around it have to satisfy. -/
theorem fills_append_named_iff :
    Fills parameters (before ++ ⟨some name, value, span⟩ :: after) ↔
      (∀ argument ∈ after, argument.name.isSome = true) ∧ Fills parameters (before ++ after) ∧
        name ∈ parameters.map (·.name) ∧ name ∉ givenNames parameters (before ++ after) := by
  constructor
  · rintro ⟨hroom, hnamed, hknown, honce⟩
    rw [leading_append_named] at hroom
    rw [behind_append_named, List.forall_mem_append, List.forall_mem_cons] at hnamed
    rw [namedEntries_append, namedEntries_named, List.forall_mem_append,
      List.forall_mem_cons] at hknown
    rw [givenNames_append_named, List.nodup_middle, ← givenNames_append_of_named hnamed.2.2,
      List.nodup_cons] at honce
    refine ⟨hnamed.2.2, ⟨?_, ?_, ?_, honce.2⟩, hknown.2.1, honce.1⟩
    · rwa [leading_append_of_named hnamed.2.2]
    · rw [behind_append_of_named hnamed.2.2, List.forall_mem_append]
      exact ⟨hnamed.1, hnamed.2.2⟩
    · rw [namedEntries_append, List.forall_mem_append]
      exact ⟨hknown.1, hknown.2.2⟩
  · rintro ⟨hafter, ⟨hroom, hnamed, hknown, honce⟩, hname, hfree⟩
    rw [leading_append_of_named hafter] at hroom
    rw [behind_append_of_named hafter, List.forall_mem_append] at hnamed
    rw [namedEntries_append, List.forall_mem_append] at hknown
    refine ⟨?_, ?_, ?_, ?_⟩
    · rwa [leading_append_named]
    · rw [behind_append_named, List.forall_mem_append, List.forall_mem_cons]
      exact ⟨hnamed.1, rfl, hafter⟩
    · rw [namedEntries_append, namedEntries_named, List.forall_mem_append, List.forall_mem_cons]
      exact ⟨hknown.1, hname, hknown.2⟩
    · rw [givenNames_append_named, List.nodup_middle, ← givenNames_append_of_named hafter,
        List.nodup_cons]
      exact ⟨hfree, honce⟩

theorem fills_added_iff (hparameter : name ∈ parameters.map (·.name))
    (hfree : name ∉ givenNames parameters arguments) :
    Fills parameters arguments ↔ Fills parameters (arguments ++ [⟨some name, value, span⟩]) := by
  rw [fills_append_named_iff, List.append_nil]
  exact ⟨fun h => ⟨fun _ hmem => absurd hmem List.not_mem_nil, h, hparameter, hfree⟩,
    fun h => h.2.1⟩

/-- Whether arguments fill parameters is up to their names. -/
theorem Fills.of_names_eq {others : List Argument}
    (hlength : (leading arguments).length = (leading others).length)
    (hbehind : (behind arguments).map (·.name) = (behind others).map (·.name))
    (hnamed : (namedEntries arguments).map (·.1) = (namedEntries others).map (·.1))
    (hgiven : givenNames parameters arguments = givenNames parameters others)
    (h : Fills parameters arguments) : Fills parameters others := by
  refine ⟨hlength ▸ h.room, fun argument hmem => ?_, fun entry hmem => ?_, hgiven ▸ h.once⟩
  · have hname : argument.name ∈ (behind others).map (·.name) := List.mem_map_of_mem hmem
    rw [← hbehind] at hname
    obtain ⟨original, horiginal, heq⟩ := List.mem_map.mp hname
    exact heq ▸ h.named original horiginal
  · have hname : entry.1 ∈ (namedEntries others).map (·.1) := List.mem_map_of_mem hmem
    rw [← hnamed] at hname
    obtain ⟨original, horiginal, heq⟩ := List.mem_map.mp hname
    exact heq ▸ h.known original horiginal

end Lists

/-! ### Arguments with related values -/

section Related

variable {related : Expr → Expr → Prop}

/-- The values under the names of their parameters are related. -/
def RelatedEntries (related : Expr → Expr → Prop) (first second : List (String × Expr)) : Prop :=
  List.Forall₂ (fun one two => one.1 = two.1 ∧ related one.2 two.2) first second

theorem RelatedEntries.names_eq {first second : List (String × Expr)}
    (h : RelatedEntries related first second) : first.map (·.1) = second.map (·.1) := by
  induction h with
  | nil => rfl
  | cons hhead _ ih => rw [List.map_cons, List.map_cons, hhead.1, ih]

theorem RelatedEntries.lookup {first second : List (String × Expr)}
    (h : RelatedEntries related first second) (name : String) :
    Option.Rel related (first.lookup name) (second.lookup name) := by
  induction h with
  | nil => exact .none
  | @cons one two rest rest' hhead _ ih =>
    obtain ⟨found, value⟩ := one
    obtain ⟨found', value'⟩ := two
    obtain ⟨rfl, hvalue⟩ := hhead
    rw [List.lookup_cons, List.lookup_cons]
    cases name == found with
    | false => exact ih
    | true => exact .some hvalue

variable {arguments others : List Argument} {parameters : List Parameter}
  (h : List.Forall₂ (Argument.Related related) arguments others)

include h

theorem related_names : arguments.map (·.name) = others.map (·.name) := by
  induction h with
  | nil => rfl
  | cons hhead _ ih => rw [List.map_cons, List.map_cons, hhead.name_eq, ih]

theorem related_leading :
    List.Forall₂ (Argument.Related related) (leading arguments) (leading others) := by
  induction h with
  | nil => exact .nil
  | @cons one two rest rest' hhead _ ih =>
    obtain ⟨name, value, span⟩ := one
    obtain ⟨name', value', span'⟩ := two
    cases hhead.name_eq
    cases name with
    | none => exact .cons hhead ih
    | some name => exact .nil

theorem related_behind :
    List.Forall₂ (Argument.Related related) (behind arguments) (behind others) := by
  induction h with
  | nil => exact .nil
  | @cons one two rest rest' hhead hrest ih =>
    obtain ⟨name, value, span⟩ := one
    obtain ⟨name', value', span'⟩ := two
    cases hhead.name_eq
    cases name with
    | none => exact ih
    | some name => exact .cons hhead hrest

theorem related_namedEntries :
    RelatedEntries related (namedEntries arguments) (namedEntries others) := by
  induction h with
  | nil => exact .nil
  | @cons one two rest rest' hhead hrest ih =>
    obtain ⟨name, value, span⟩ := one
    obtain ⟨name', value', span'⟩ := two
    cases hhead.name_eq
    cases name with
    | none => exact ih
    | some name => exact .cons ⟨rfl, hhead.value⟩ ih

theorem related_zip (names : List String) :
    RelatedEntries related (names.zip (arguments.map (·.value)))
      (names.zip (others.map (·.value))) := by
  induction h generalizing names with
  | nil =>
    rw [List.map_nil, List.zip_nil_right]
    exact .nil
  | cons hhead hrest ih =>
    cases names with
    | nil => exact .nil
    | cons name names => exact .cons ⟨rfl, hhead.value⟩ (ih names)

theorem related_entries :
    RelatedEntries related (entries parameters arguments) (entries parameters others) :=
  List.rel_append (related_zip (related_leading h) _) (related_namedEntries h)

/-- Whether arguments fill parameters is not up to their values. -/
theorem fills_related_iff : Fills parameters arguments ↔ Fills parameters others := by
  have hlength : (leading arguments).length = (leading others).length :=
    (related_leading h).length_eq
  have hbehind : (behind arguments).map (·.name) = (behind others).map (·.name) :=
    related_names (related_behind h)
  have hnamed : (namedEntries arguments).map (·.1) = (namedEntries others).map (·.1) :=
    (related_namedEntries h).names_eq
  have hgiven : givenNames parameters arguments = givenNames parameters others :=
    (related_entries h).names_eq
  exact ⟨.of_names_eq hlength hbehind hnamed hgiven,
    .of_names_eq hlength.symm hbehind.symm hnamed.symm hgiven.symm⟩

end Related

/-! ### Values of parameters -/

/-- A call whose arguments are given to the parameters that they fill. -/
def filled (call : Call) (parameters : List Parameter) : Bound :=
  ⟨call, entries parameters call.arguments⟩

theorem value?_congr {first second : Bound} {name : String}
    (h : first.given.lookup name = second.given.lookup name) :
    first.value? name = second.value? name := by
  rw [value?, value?, h]

theorem value?_eq_none {bound : Bound} {name : String} (h : name ∉ bound.given.map (·.1)) :
    bound.value? name = none := by
  have hnone : bound.given.lookup name = none := by
    refine List.lookup_eq_none_iff.mpr fun entry hentry => bne_iff_ne.mpr ?_
    rintro rfl
    exact h (List.mem_map_of_mem hentry)
  rw [value?, hnone]

theorem lookup_middle {before after : List (String × Expr)} {name other : String} {value : Expr}
    (hne : other ≠ name) :
    (before ++ (name, value) :: after).lookup other = (before ++ after).lookup other := by
  have hbeq : (other == name) = false := beq_eq_false_iff_ne.mpr hne
  rw [List.lookup_append, List.lookup_append, List.lookup_cons, hbeq]

theorem lookup_middle_self {before after : List (String × Expr)} {name : String} {value : Expr}
    (hfree : name ∉ before.map (·.1)) :
    (before ++ (name, value) :: after).lookup name = some value := by
  refine List.lookup_eq_some_iff.mpr ⟨before, after, rfl, fun entry hentry => bne_iff_ne.mpr ?_⟩
  rintro rfl
  exact hfree (List.mem_map_of_mem hentry)

section Read

variable {α : Type} {bound : Bound} {convert : Conversion α} {name : String}

theorem exclusive_eq_ok_iff {first second : String} {value : Unit} :
    bound.exclusive first second = .ok value ↔
      ¬((bound.value? first).isSome = true ∧ (bound.value? second).isSome = true) := by
  unfold exclusive
  rw [← Bool.and_eq_true]
  split
  · exact iff_of_false nofun (not_not_intro ‹_›)
  · exact iff_of_true rfl ‹_›

/-- What is read was given. -/
theorem isSome_of_optional_eq_ok {read : Option α} (h : bound.optional convert name = .ok read) :
    read.isSome = (bound.value? name).isSome := by
  unfold optional at h
  cases hvalue : bound.value? name with
  | none =>
    rw [hvalue] at h
    cases h
    rfl
  | some expr =>
    rw [hvalue] at h
    obtain ⟨value, -, rfl⟩ := except_map_eq_ok.mp h
    rfl

theorem required_eq_ok_iff_optional {value : α} :
    bound.required convert name = .ok value ↔ bound.optional convert name = .ok (some value) := by
  unfold required optional
  cases bound.value? name with
  | none => exact iff_of_false nofun nofun
  | some expr =>
    dsimp only
    rw [except_map_eq_ok]
    simp only [Option.some.injEq, exists_eq_right]

end Read

/-! ### Binding -/

variable {call : Call} {parameters : List Parameter} {bound : Bound}

theorem find?_required_eq_none_iff :
    parameters.find? (fun parameter => parameter.isRequired &&
        (bound.value? parameter.name).isNone) = none ↔
      ∀ parameter ∈ parameters, parameter.isRequired = true →
        (bound.value? parameter.name).isSome = true := by
  rw [List.find?_eq_none]
  simp only [Bool.and_eq_true, not_and, Option.isNone_iff_eq_none, ← ne_eq,
    Option.isSome_iff_ne_none]

theorem ofCall_eq_ok {given : List (String × Expr)}
    (hadd : add call.method parameters [] parameters call.arguments = .ok given)
    (hrequired : ∀ parameter ∈ parameters, parameter.isRequired = true →
      (value? ⟨call, given⟩ parameter.name).isSome = true) :
    ofCall call parameters = .ok ⟨call, given⟩ := by
  rw [ofCall, hadd, ok_bind]
  dsimp only
  rw [find?_required_eq_none_iff.mpr hrequired]

theorem add_eq_ok_iff_fills {method : String} {arguments : List Argument}
    {result : List (String × Expr)} (hnodup : (parameters.map (·.name)).Nodup) :
    add method parameters [] parameters arguments = .ok result ↔
      Fills parameters arguments ∧ result = entries parameters arguments := by
  have hnodup' : (([] : List (String × Expr)).map (·.1) ++ parameters.map (·.name)).Nodup :=
    hnodup
  rw [add_eq_ok_iff hnodup', List.nil_append]
  exact ⟨fun ⟨hroom, hnamed, hknown, honce, hresult⟩ => ⟨⟨hroom, hnamed, hknown, honce⟩, hresult⟩,
    fun ⟨h, hresult⟩ => ⟨h.room, h.named, h.known, h.once, hresult⟩⟩

/-- A call is bound if its arguments fill parameters and each required one has a value. -/
theorem ofCall_eq_ok_iff (hnodup : (parameters.map (·.name)).Nodup) :
    ofCall call parameters = .ok bound ↔
      Fills parameters call.arguments ∧ bound = filled call parameters ∧
        ∀ parameter ∈ parameters, parameter.isRequired = true →
          ((filled call parameters).value? parameter.name).isSome = true := by
  constructor
  · intro hbound
    rw [ofCall, except_bind_eq_ok] at hbound
    obtain ⟨result, hresult, hbound⟩ := hbound
    obtain ⟨hfills, rfl⟩ := (add_eq_ok_iff_fills hnodup).mp hresult
    dsimp only at hbound
    split at hbound
    · cases hbound
    · rename_i hnone
      cases hbound
      exact ⟨hfills, rfl, find?_required_eq_none_iff.mp hnone⟩
  · rintro ⟨hfills, rfl, hrequired⟩
    exact ofCall_eq_ok ((add_eq_ok_iff_fills hnodup).mpr ⟨hfills, rfl⟩) hrequired

/-- A call is not bound if an argument has the name of no parameter. -/
theorem exists_ofCall_eq_error {before after : List Argument} {name : String} {value : Expr}
    {span : Span} (harguments : call.arguments = before ++ ⟨some name, value, span⟩ :: after)
    (hnodup : (parameters.map (·.name)).Nodup) (hunknown : name ∉ parameters.map (·.name)) :
    ∃ error, ofCall call parameters = .error error := by
  cases hbound : ofCall call parameters with
  | error error => exact ⟨error, rfl⟩
  | ok bound =>
    have hfills := ((ofCall_eq_ok_iff hnodup).mp hbound).1
    rw [harguments, fills_append_named_iff] at hfills
    exact absurd hfills.2.2.1 hunknown

end Bound

end MigrationScript
