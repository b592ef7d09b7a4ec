import Mathlib.Data.List.Forall2
import MigrationScript.Meaning.Error

/-!
# Steps that may fail

Three things are said about the outcome of steps: what holds of a value, what holds of an error, and
how two runs compare. Each goes through a step and through a list of steps, so that what is built of
them need not be opened.
-/

namespace MigrationScript

variable {ε α β : Type}

theorem except_bind_eq_ok {first : Except ε α} {further : α → Except ε β} {result : β} :
    first >>= further = .ok result ↔ ∃ value, first = .ok value ∧ further value = .ok result := by
  cases first with
  | ok value =>
    constructor
    · exact fun h => ⟨value, rfl, h⟩
    · rintro ⟨_, ⟨⟩, h⟩
      exact h
  | error error =>
    constructor
    · rintro ⟨⟩
    · rintro ⟨_, ⟨⟩, -⟩

theorem except_map_eq_ok {outcome : Except ε α} {view : α → β} {result : β} :
    outcome.map view = .ok result ↔ ∃ value, outcome = .ok value ∧ view value = result := by
  cases outcome <;> simp [Except.map]

theorem ok_bind {value : α} {further : α → Except ε β} :
    (Except.ok value >>= further) = further value :=
  rfl

theorem return_eq_ok {read : Except ε α} {value : α} (made : α → β) (h : read = .ok value) :
    (do return made (← read)) = Except.ok (made value) := by
  rw [h]
  rfl

/-- A value that the steps end with has the property. -/
def Ensures (outcome : Except ε α) (holds : α → Prop) : Prop :=
  ∀ value, outcome = .ok value → holds value

section Ensures

variable {first : Except ε α} {further : α → Except ε β} {outcome : Except ε β}
  {holds kept : β → Prop}

theorem Ensures.ok {value : β} (h : holds value) : Ensures (.ok value : Except ε β) holds := by
  intro result hresult
  cases hresult
  exact h

theorem Ensures.error {error : ε} : Ensures (.error error) holds := by
  intro result hresult
  cases hresult

theorem Ensures.bind (h : ∀ value, first = .ok value → Ensures (further value) holds) :
    Ensures (first >>= further) holds := by
  intro result hresult
  obtain ⟨value, hvalue, hresult⟩ := except_bind_eq_ok.mp hresult
  exact h value hvalue result hresult

theorem Ensures.mono (h : Ensures outcome kept) (himplies : ∀ value, kept value → holds value) :
    Ensures outcome holds :=
  fun value hvalue => himplies value (h value hvalue)

end Ensures

/-- What every step preserves holds behind all of them. -/
theorem ensures_foldlM {step : β → α → Except ε β} {holds : β → Prop} {items : List α}
    (hstep : ∀ state, ∀ item ∈ items, holds state → Ensures (step state item) holds)
    {state : β} (hstate : holds state) : Ensures (items.foldlM step state) holds := by
  induction items generalizing state with
  | nil => exact .ok hstate
  | cons item rest ih =>
    rw [List.foldlM_cons]
    refine .bind fun middle hmiddle => ?_
    have hkept : holds middle := hstep state item List.mem_cons_self hstate middle hmiddle
    exact ih (fun state item hmem => hstep state item (List.mem_cons_of_mem _ hmem)) hkept

theorem ensures_mapM {read : α → Except ε β} {holds : β → Prop} {items : List α}
    (h : ∀ item, Ensures (read item) holds) :
    Ensures (items.mapM read) fun values => ∀ value ∈ values, holds value := by
  induction items with
  | nil => exact .ok fun _ hmem => absurd hmem List.not_mem_nil
  | cons item rest ih =>
    rw [List.mapM_cons]
    refine .bind fun value hvalue => .bind fun values hvalues => .ok ?_
    exact List.forall_mem_cons.mpr ⟨h item value hvalue, ih values hvalues⟩

/-- An error that the steps end with has the property. -/
def Errs (outcome : Except ε α) (holds : ε → Prop) : Prop :=
  ∀ error, outcome = .error error → holds error

section Errs

variable {first : Except ε α} {further : α → Except ε β} {holds : ε → Prop}

theorem Errs.ok {value : α} : Errs (.ok value : Except ε α) holds := by
  intro error herror
  cases herror

theorem Errs.error {error : ε} (h : holds error) : Errs (.error error : Except ε α) holds := by
  intro found hfound
  cases hfound
  exact h

theorem Errs.bind (hfirst : Errs first holds)
    (hfurther : ∀ value, first = .ok value → Errs (further value) holds) :
    Errs (first >>= further) holds := by
  intro error herror
  cases hvalue : first with
  | ok value =>
    rw [hvalue] at herror
    exact hfurther value hvalue error herror
  | error found =>
    rw [hvalue] at herror
    cases herror
    exact hfirst _ hvalue

theorem Errs.map {made : α → β} (h : Errs first holds) : Errs (first.map made) holds := by
  intro error herror
  cases hvalue : first with
  | ok value =>
    rw [hvalue] at herror
    cases herror
  | error found =>
    rw [hvalue] at herror
    cases herror
    exact h _ hvalue

end Errs

theorem errs_foldlM {step : β → α → Except ε β} {holds : ε → Prop} {items : List α}
    (hstep : ∀ state, ∀ item ∈ items, Errs (step state item) holds) (state : β) :
    Errs (items.foldlM step state) holds := by
  induction items generalizing state with
  | nil => exact .ok
  | cons item rest ih =>
    rw [List.foldlM_cons]
    refine .bind (hstep state item List.mem_cons_self) fun middle _ => ?_
    exact ih (fun state item hmem => hstep state item (List.mem_cons_of_mem _ hmem)) middle

theorem errs_mapM {read : α → Except ε β} {holds : ε → Prop} {items : List α}
    (h : ∀ item ∈ items, Errs (read item) holds) : Errs (items.mapM read) holds := by
  induction items with
  | nil => exact .ok
  | cons item rest ih =>
    rw [List.mapM_cons]
    refine .bind (h item List.mem_cons_self) fun value _ => ?_
    refine .bind (ih fun item hmem => h item (List.mem_cons_of_mem _ hmem)) fun values _ => ?_
    exact .ok

/-! ### Two runs -/

/-- Both runs fail, or both end with values between which the relation holds. -/
inductive Alike (related : α → α → Prop) : Except ε α → Except ε α → Prop
  | ok {first second : α} : related first second → Alike related (.ok first) (.ok second)
  | error {first second : ε} : Alike related (.error first) (.error second)

namespace Alike

variable {related : α → α → Prop} {result : β → β → Prop} {first second third : Except ε α}
  {further other : α → Except ε β}

theorem refl (hrelated : ∀ value, related value value) (outcome : Except ε α) :
    Alike related outcome outcome := by
  cases outcome with
  | ok value => exact .ok (hrelated value)
  | error error => exact .error

theorem rfl : Alike Eq first first :=
  refl (fun _ => Eq.refl _) first

theorem symm (h : Alike Eq first second) : Alike Eq second first := by
  cases h with
  | ok heq => exact .ok heq.symm
  | error => exact .error

theorem trans (hfirst : Alike Eq first second) (hsecond : Alike Eq second third) :
    Alike Eq first third := by
  cases hfirst with
  | ok heq => exact heq ▸ hsecond
  | error =>
    cases hsecond
    exact .error

/-- The values are related if one run ends exactly if the other does. -/
theorem of_iff (hiff : (∃ value, first = .ok value) ↔ ∃ value, second = .ok value)
    (hrelated : ∀ one two, first = .ok one → second = .ok two → related one two) :
    Alike related first second := by
  cases first with
  | ok one =>
    obtain ⟨two, rfl⟩ := hiff.mp ⟨one, Eq.refl _⟩
    exact .ok (hrelated one two (Eq.refl _) (Eq.refl _))
  | error =>
    cases second with
    | ok two =>
      obtain ⟨_, ⟨⟩⟩ := hiff.mpr ⟨two, Eq.refl _⟩
    | error => exact .error

theorem bind (h : Alike related first second)
    (hfurther : ∀ one two, related one two → Alike result (further one) (other two)) :
    Alike result (first >>= further) (second >>= other) := by
  cases h with
  | ok hrelated => exact hfurther _ _ hrelated
  | error => exact .error

theorem bind_eq (h : Alike Eq first second)
    (hfurther : ∀ value, Alike result (further value) (other value)) :
    Alike result (first >>= further) (second >>= other) :=
  h.bind fun _ two heq => heq ▸ hfurther two

end Alike

section Replaced

variable {γ : Type} {before after : List γ} {item other : γ}

/-- One item may be replaced by another on which the steps do the same. -/
theorem alike_foldlM {step : β → γ → Except ε β}
    (h : ∀ state, Alike Eq (step state item) (step state other)) (state : β) :
    Alike Eq ((before ++ item :: after).foldlM step state)
      ((before ++ other :: after).foldlM step state) := by
  rw [List.foldlM_append, List.foldlM_append]
  refine .bind_eq .rfl fun state => ?_
  rw [List.foldlM_cons, List.foldlM_cons]
  exact .bind_eq (h state) fun _ => .rfl

theorem alike_mapM {read : γ → Except ε β} (h : Alike Eq (read item) (read other)) :
    Alike Eq ((before ++ item :: after).mapM read) ((before ++ other :: after).mapM read) := by
  rw [List.mapM_append, List.mapM_append, List.mapM_cons, List.mapM_cons]
  exact .bind_eq .rfl fun _ => .bind_eq (.bind_eq h fun _ => .rfl) fun _ => .rfl

end Replaced

/-- Steps of which each adds one item add all of them. -/
theorem foldlM_eq_ok {γ : Type} {step : β → γ → Except ε β} {tree : α → γ} {items : List α}
    (state : List α → β) (hstep : ∀ before item after, items = before ++ item :: after →
      item ∈ items → step (state before) (tree item) = .ok (state (before ++ [item]))) :
    (items.map tree).foldlM step (state []) = .ok (state items) := by
  -- The items in front have been added; the induction is on those that are left.
  suffices h : ∀ before after, items = before ++ after →
      (after.map tree).foldlM step (state before) = .ok (state items) from h [] items rfl
  intro before after
  induction after generalizing before with
  | nil =>
    rintro rfl
    rw [List.append_nil]
    rfl
  | cons item after ih =>
    intro hitems
    have hmem : item ∈ items := by
      rw [hitems]
      exact List.mem_append_right before List.mem_cons_self
    have hrest := ih (before ++ [item]) (by rw [hitems, List.append_assoc]; rfl)
    rw [List.map_cons, List.foldlM_cons, hstep before item after hitems hmem]
    exact hrest

theorem mapM_eq_ok {read : β → Except ε α} {tree : α → β} {items : List α}
    (h : ∀ item ∈ items, read (tree item) = .ok item) : (items.map tree).mapM read = .ok items := by
  induction items with
  | nil => rfl
  | cons item rest ih =>
    rw [List.map_cons, List.mapM_cons, h item List.mem_cons_self,
      ih fun item hmem => h item (List.mem_cons_of_mem _ hmem)]
    rfl

theorem mapM_eq_ok_iff {read : α → Except ε β} {items : List α} {values : List β} :
    items.mapM read = .ok values ↔
      List.Forall₂ (fun item value => read item = .ok value) items values := by
  induction items generalizing values with
  | nil =>
    rw [List.forall₂_nil_left_iff]
    exact ⟨fun h => (Except.ok.inj h).symm, fun h => h ▸ rfl⟩
  | cons item rest ih =>
    rw [List.mapM_cons, List.forall₂_cons_left_iff, except_bind_eq_ok]
    refine exists_congr fun value => ?_
    constructor
    · rintro ⟨hvalue, h⟩
      obtain ⟨others, hothers, h⟩ := except_bind_eq_ok.mp h
      exact ⟨others, hvalue, ih.mp hothers, (Except.ok.inj h).symm⟩
    · rintro ⟨others, hvalue, hothers, rfl⟩
      rw [ih.mpr hothers]
      exact ⟨hvalue, rfl⟩

/-- Steps that each read one value and keep it behind those read before: they read a value of every
item, if the values are admitted together. -/
theorem foldlM_eq_ok_iff {σ : Type} {step : σ → α → Except ε σ} {make : List β → σ}
    {reads : α → β → Prop} {admits : List β → Prop} {items : List α}
    (hstep : ∀ before item result, admits before → (step (make before) item = .ok result ↔
      ∃ value, reads item value ∧ admits (before ++ [value]) ∧ result = make (before ++ [value])))
    (hfront : ∀ before after, admits (before ++ after) → admits before)
    {before : List β} (hbefore : admits before) {result : σ} :
    items.foldlM step (make before) = .ok result ↔
      ∃ values, List.Forall₂ reads items values ∧ admits (before ++ values) ∧
        result = make (before ++ values) := by
  induction items generalizing before with
  | nil =>
    constructor
    · rintro ⟨⟩
      exact ⟨[], .nil, by rwa [List.append_nil], by rw [List.append_nil]⟩
    · rintro ⟨_, ⟨⟩, -, rfl⟩
      rw [List.append_nil]
      rfl
  | cons item rest ih =>
    rw [List.foldlM_cons, except_bind_eq_ok]
    constructor
    · rintro ⟨middle, hmiddle, hrest⟩
      obtain ⟨value, hreads, hadmits, rfl⟩ := (hstep before item middle hbefore).mp hmiddle
      obtain ⟨values, hvalues, hadmitted, hresult⟩ := (ih hadmits).mp hrest
      rw [List.append_assoc, List.singleton_append] at hadmitted hresult
      exact ⟨value :: values, .cons hreads hvalues, hadmitted, hresult⟩
    · rintro ⟨_, hvalues, hadmitted, hresult⟩
      cases hvalues with
      | @cons _ value _ values hreads hvalues =>
        rw [List.append_cons] at hadmitted hresult
        have hadmits : admits (before ++ [value]) := hfront _ values hadmitted
        refine ⟨make (before ++ [value]),
          (hstep before item _ hbefore).mpr ⟨value, hreads, hadmits, rfl⟩, ?_⟩
        exact (ih hadmits).mpr ⟨values, hvalues, hadmitted, hresult⟩

end MigrationScript
