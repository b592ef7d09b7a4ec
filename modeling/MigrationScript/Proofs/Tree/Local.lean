import MigrationScript.Proofs.Tree.Bound
import MigrationScript.Proofs.Tree.Moved

/-!
# Readers look only so far

What a reader has read does not depend on the tokens behind it, but for a few at which it looks
ahead. Each reader is given how many tokens it takes at least and how many must be left for it.
-/

namespace MigrationScript

namespace Cursor

/-- The same place with further tokens behind those that are left, and another end. -/
def followed (more : List Token) (finish : Token) (cursor : Cursor) : Cursor :=
  ⟨cursor.rest ++ more, finish, cursor.previous⟩

variable {cursor : Cursor} {more : List Token} {finish : Token}

theorem current_followed (h : 1 ≤ cursor.rest.length) :
    (cursor.followed more finish).current = cursor.current := by
  obtain ⟨rest, finish, previous⟩ := cursor
  cases rest with
  | nil => cases h
  | cons token rest => rfl

theorem ahead_followed (h : 2 ≤ cursor.rest.length) :
    (cursor.followed more finish).ahead = cursor.ahead := by
  obtain ⟨rest, finish, previous⟩ := cursor
  rcases rest with - | ⟨token, - | ⟨behind, rest⟩⟩
  · cases h
  · cases Nat.le_of_succ_le_succ h
  · rfl

theorem isAt_followed {mark : Punctuation} (h : 1 ≤ cursor.rest.length) :
    (cursor.followed more finish).isAt mark = cursor.isAt mark := by
  rw [isAt, isAt, current_followed h]

theorem isEmpty_rest_followed (h : 1 ≤ cursor.rest.length) :
    (cursor.followed more finish).rest.isEmpty = cursor.rest.isEmpty := by
  obtain ⟨rest, finish, previous⟩ := cursor
  cases rest with
  | nil => cases h
  | cons token rest => rfl

theorem advance_followed (h : 1 ≤ cursor.rest.length) :
    (cursor.followed more finish).advance = cursor.advance.followed more finish := by
  obtain ⟨rest, finish, previous⟩ := cursor
  cases rest with
  | nil => cases h
  | cons token rest => rfl

theorem Ends.advance (h : cursor.Ends) : cursor.advance.Ends := by
  rw [Ends, finish_advance]
  exact h

/-- Where the current token is not the end there is a token left. -/
theorem length_advance_lt (hends : cursor.Ends) (h : cursor.current.kind ≠ .endOfInput) :
    cursor.advance.rest.length + 1 ≤ cursor.rest.length := by
  obtain ⟨rest, finish, previous⟩ := cursor
  cases rest with
  | nil => exact absurd hends h
  | cons token rest => exact Nat.le_refl _

theorem length_advance_advance_lt (hends : cursor.Ends) (h : cursor.ahead.kind ≠ .endOfInput) :
    cursor.advance.advance.rest.length + 2 ≤ cursor.rest.length := by
  obtain ⟨rest, finish, previous⟩ := cursor
  rcases rest with - | ⟨token, - | ⟨behind, rest⟩⟩
  · exact absurd hends h
  · exact absurd hends h
  · exact Nat.le_refl _

end Cursor

namespace Parser

variable {α β : Type} {parser parser' : Parser α} {further further' : α → Parser β}
  {before : Cursor} {least need need' total : Nat}

/-- Where the first parser succeeds at the place, it takes at least so many tokens, and while as
many are left as it needs, the second one does the same in front of further tokens. -/
def LocalAt (before : Cursor) (least need : Nat) (parser parser' : Parser α) : Prop :=
  ∀ ⦃value after⦄, parser before = .ok value after →
    after.Ends ∧ after.rest.length + least ≤ before.rest.length ∧
      (need ≤ after.rest.length → ∀ more finish,
        parser' (before.followed more finish) = .ok value (after.followed more finish))

/-- The parser takes at least so many tokens, and reads the same in front of further tokens while as
many are left as it needs. -/
def Local (least need : Nat) (parser : Parser α) : Prop :=
  ∀ ⦃before⦄, before.Ends → LocalAt before least need parser parser

/-! ### Steps -/

theorem localAt_pure {value : α} (hends : before.Ends) :
    LocalAt before 0 need (pure value) (pure value) := by
  intro value after h
  obtain ⟨rfl, rfl⟩ := pure_eq_ok.mp h
  exact ⟨hends, Nat.le_refl _, fun _ _ _ => rfl⟩

theorem localAt_expected {expectation : Expectation} :
    LocalAt before least need (expected expectation) parser' :=
  fun _ _ h => absurd h expected_ne_ok

theorem localAt_expected_bind {expectation : Expectation} {parser' : Parser β} :
    LocalAt before least need (expected expectation >>= further) parser' := by
  intro value after h
  obtain ⟨_, _, hexpected, -⟩ := bind_eq_ok.mp h
  exact absurd hexpected expected_ne_ok

/-- The further step takes at least `least'` tokens, which count for what the first step needs. -/
theorem LocalAt.bind (least' : Nat) (h : LocalAt before least need parser parser')
    (hfurther : ∀ value ⦃after⦄, after.Ends → after.rest.length + least ≤ before.rest.length →
      LocalAt after least' need' (further value) (further' value))
    (hbound : need ≤ need' + least' ∧ total ≤ least + least') :
    LocalAt before total need' (parser >>= further) (parser' >>= further') := by
  intro result last hresult
  obtain ⟨value, after, hvalue, hrest⟩ := bind_eq_ok.mp hresult
  obtain ⟨hends, hlength, hsame⟩ := h hvalue
  obtain ⟨hends', hlength', hsame'⟩ := hfurther value hends hlength hrest
  refine ⟨hends', by omega, fun hneed more finish => ?_⟩
  rw [bind_of_ok (hsame (by omega) more finish)]
  exact hsame' hneed more finish

theorem LocalAt.map {view : α → β} (h : LocalAt before least need parser parser') :
    LocalAt before least need (parser >>= fun value => pure (view value))
      (parser' >>= fun value => pure (view value)) := by
  intro result last hresult
  obtain ⟨value, after, hvalue, hpure⟩ := bind_eq_ok.mp hresult
  obtain ⟨rfl, rfl⟩ := pure_eq_ok.mp hpure
  obtain ⟨hends, hlength, hsame⟩ := h hvalue
  refine ⟨hends, hlength, fun hneed more finish => ?_⟩
  rw [bind_of_ok (hsame hneed more finish)]
  rfl

/-- What a parser does that looks at so many tokens without taking them. -/
theorem LocalAt.get_bind {further further' : Cursor → Parser β} (size : Nat)
    (h : LocalAt before least need (further before) (further' before))
    (hfurther : size ≤ before.rest.length → ∀ more finish,
      further' (before.followed more finish) = further' before)
    (hsize : size ≤ need + least) :
    LocalAt before least need (get >>= further) (get >>= further') := by
  intro value after hvalue
  obtain ⟨hends, hlength, hsame⟩ := h hvalue
  refine ⟨hends, hlength, fun hneed more finish => ?_⟩
  rw [Parser.get_bind, hfurther (by omega)]
  exact hsame hneed more finish

theorem LocalAt.fuel_bind {further further' : Nat → Parser β}
    (h : ∀ count, before.rest.length < count →
      LocalAt before least need (further (before.rest.length + 1)) (further' count)) :
    LocalAt before least need (fuel >>= further) (fuel >>= further') := by
  intro value after hvalue
  rw [bind_of_ok (fuel_eq before)] at hvalue
  obtain ⟨hends, hlength, -⟩ := h _ (Nat.lt_succ_self _) hvalue
  refine ⟨hends, hlength, fun hneed more finish => ?_⟩
  rw [bind_of_ok (fuel_eq _)]
  refine (h _ ?_ hvalue).2.2 hneed more finish
  rw [Cursor.followed, List.length_append]
  omega

theorem localAt_ite {condition : Prop} [Decidable condition] {other other' : Parser α}
    (h : LocalAt before least need parser parser')
    (hother : LocalAt before least need other other') :
    LocalAt before least need (if condition then parser else other)
      (if condition then parser' else other') := by
  split
  · exact h
  · exact hother

/-- A parser that takes the current token and looks at no other. -/
theorem localAt_of_advance (value : α) (hends : before.Ends)
    (hkind : before.current.kind ≠ .endOfInput)
    (h : ∀ cursor : Cursor, cursor.current = before.current →
      parser cursor = .ok value cursor.advance) : LocalAt before 1 0 parser parser := by
  have hlength := Cursor.length_advance_lt hends hkind
  intro value' after hvalue
  rw [h before rfl] at hvalue
  cases hvalue
  refine ⟨hends.advance, hlength, fun _ more finish => ?_⟩
  rw [h _ (Cursor.current_followed (by omega)), Cursor.advance_followed (by omega)]

theorem localAt_advance (hends : before.Ends) (hkind : before.current.kind ≠ .endOfInput) :
    LocalAt before 1 0 advance advance :=
  localAt_of_advance () hends hkind fun cursor _ => advance_eq cursor

theorem local_expect {mark : Punctuation} : Local 1 0 (expect mark) := by
  intro before hends value after hvalue
  have hkind := kind_of_expect hvalue
  refine localAt_of_advance value hends (by rw [hkind]; simp) (fun cursor hcurrent => ?_) hvalue
  exact expect_of_kind (by rw [hcurrent, hkind])

theorem local_identifier : Local 1 0 identifier := by
  intro before hends value after hvalue
  have hkind := kind_of_identifier hvalue
  refine localAt_of_advance value hends (by rw [hkind]; simp) (fun cursor hcurrent => ?_) hvalue
  exact identifier_of_kind (by rw [hcurrent, hkind])

theorem local_skip {mark : Punctuation} : Local 0 1 (skip mark) := by
  intro before hends value after hvalue
  by_cases hkind : before.current.kind = .punctuation mark
  · obtain ⟨hends', hlength, hsame⟩ := localAt_of_advance true hends (by rw [hkind]; simp)
      (fun cursor hcurrent => skip_of_kind (by rw [hcurrent, hkind])) hvalue
    exact ⟨hends', by omega, fun _ => hsame (Nat.zero_le _)⟩
  · rw [skip_of_kind_ne hkind] at hvalue
    cases hvalue
    refine ⟨hends, Nat.le_refl _, fun hneed more finish => ?_⟩
    exact skip_of_kind_ne (by rw [Cursor.current_followed hneed]; exact hkind)

theorem labelled_followed {mark : Punctuation} {name : String} {more : List Token} {finish : Token}
    (h : 2 ≤ before.rest.length) :
    Labelled mark name (before.followed more finish) ↔ Labelled mark name before := by
  rw [Labelled, Labelled, Cursor.current_followed (by omega), Cursor.ahead_followed h]

theorem local_label {mark : Punctuation} : Local 0 2 (label mark) := by
  intro before hends value after hvalue
  by_cases hlabel : ∃ name, Labelled mark name before
  · obtain ⟨name, hlabel⟩ := hlabel
    have hlength := Cursor.length_advance_advance_lt hends (by rw [hlabel.2]; simp)
    have hlength' := Cursor.length_advance_lt hends (by rw [hlabel.1]; simp)
    rw [label_of_labelled hlabel] at hvalue
    cases hvalue
    refine ⟨hends.advance.advance, by omega, fun _ more finish => ?_⟩
    rw [label_of_labelled ((labelled_followed (by omega)).mpr hlabel),
      Cursor.advance_followed (by omega), Cursor.advance_followed]
    rw [Cursor.rest_advance, List.length_tail]
    omega
  · rw [label_of_not_labelled (not_exists.mp hlabel)] at hvalue
    cases hvalue
    refine ⟨hends, Nat.le_refl _, fun hneed more finish => label_of_not_labelled fun name h => ?_⟩
    exact hlabel ⟨name, (labelled_followed hneed).mp h⟩

theorem localAt_spanFrom {start : Span} (hends : before.Ends) :
    LocalAt before 0 need (spanFrom start) (spanFrom start) := by
  intro value after hvalue
  rw [spanFrom_eq] at hvalue
  cases hvalue
  exact ⟨hends, Nat.le_refl _, fun _ _ _ => rfl⟩

theorem local_number {negative : Bool} : Local 1 0 (number negative) := by
  intro before hends value after hvalue
  obtain ⟨kind, unsigned, hread, hform, -⟩ := reads_number hends hvalue
  have hkind : before.current.kind = kind := by
    rw [Cursor.kind_current hends, hread.kinds_eq]
    rfl
  rw [← hkind] at hform
  refine localAt_of_advance (if negative then unsigned.negate else unsigned) hends
    (fun hend => ?_) (fun cursor hcurrent => ?_) hvalue
  · rw [hend] at hform
    cases hform
  · exact number_of_kind (hcurrent ▸ hform)

/-! ### Lists

The bound of a list is above the number of tokens that are left, so that the list ends in the same
way with a greater one. -/

section Lists

variable {item : Parser α} {count count' : Nat}

theorem localAt_separated (hitem : Local 1 1 item) (hends : before.Ends)
    (hlt : before.rest.length < count) (hle : count ≤ count') :
    LocalAt before 0 1 (separated item count) (separated item count') := by
  induction count generalizing before count' with
  | zero => exact absurd hlt (Nat.not_lt_zero _)
  | succ count ih =>
    obtain ⟨count', rfl⟩ := Nat.exists_eq_succ_of_ne_zero (Nat.ne_of_gt (Nat.zero_lt_of_lt hle))
    rw [separated, separated]
    refine (hitem hends).bind 0 (fun first middle hends hlength => ?_) (by omega)
    refine (local_skip hends).bind 0 (fun found after hends hlength' => ?_) (by omega)
    refine localAt_ite ?_ (localAt_pure hends)
    exact (ih hends (by omega) (Nat.le_of_succ_le_succ hle)).map

theorem localAt_listed (hitem : Local 1 1 item) (hends : before.Ends)
    (hlt : before.rest.length < count) (hle : count ≤ count') :
    LocalAt before 0 1 (listed item count) (listed item count') := by
  induction count generalizing before count' with
  | zero => exact absurd hlt (Nat.not_lt_zero _)
  | succ count ih =>
    obtain ⟨count', rfl⟩ := Nat.exists_eq_succ_of_ne_zero (Nat.ne_of_gt (Nat.zero_lt_of_lt hle))
    rw [listed, listed]
    refine .get_bind 1 ?_ (fun hsize _ _ => by rw [Cursor.isAt_followed hsize]) (by omega)
    refine localAt_ite (localAt_pure hends) ?_
    refine (hitem hends).bind 0 (fun first middle hends hlength => ?_) (by omega)
    refine (local_skip hends).bind 0 (fun found after hends hlength' => ?_) (by omega)
    refine localAt_ite ?_ (localAt_pure hends)
    exact (ih hends (by omega) (Nat.le_of_succ_le_succ hle)).map

theorem localAt_blockOf (hitem : Local 1 0 item) (hends : before.Ends)
    (hlt : before.rest.length < count) (hle : count ≤ count') :
    LocalAt before 0 1 (blockOf item count) (blockOf item count') := by
  induction count generalizing before count' with
  | zero => exact absurd hlt (Nat.not_lt_zero _)
  | succ count ih =>
    obtain ⟨count', rfl⟩ := Nat.exists_eq_succ_of_ne_zero (Nat.ne_of_gt (Nat.zero_lt_of_lt hle))
    have hitems : LocalAt before 0 1
        (do let first ← item; return first :: (← blockOf item count))
        (do let first ← item; return first :: (← blockOf item count')) := by
      refine (hitem hends).bind 0 (fun first middle hends hlength => ?_) (by omega)
      exact (ih hends (by omega) (Nat.le_of_succ_le_succ hle)).map
    rw [blockOf, blockOf]
    refine .get_bind 1 ?_ (fun hsize _ _ => by rw [Cursor.isAt_followed hsize]) (by omega)
    refine localAt_ite (localAt_pure hends) ?_
    refine .get_bind 1 ?_ (fun hsize _ _ => by rw [Cursor.isEmpty_rest_followed hsize]) (by omega)
    exact localAt_ite localAt_expected_bind hitems

/-- The same outcome with further items in front. -/
def prepended (items : List α) :
    EStateM.Result ParseError Cursor (List α) → EStateM.Result ParseError Cursor (List α)
  | .ok others after => .ok (items ++ others) after
  | .error error after => .error error after

/-- Items up to the end, and then those that are read from the further tokens. -/
theorem untilEnd_followed (hitem : Local 1 0 item) {values : List α} {after : Cursor}
    (hends : before.Ends) (h : untilEnd item count before = .ok values after)
    (hlast : after.rest = []) (more : List Token) (finish : Token) :
    untilEnd item (values.length + count') (before.followed more finish) =
      prepended values (untilEnd item count' ⟨more, finish, after.previous⟩) := by
  have hempty (place : Cursor) (hrest : place.rest = []) :
      untilEnd item count' (place.followed more finish) =
        prepended [] (untilEnd item count' ⟨more, finish, place.previous⟩) := by
    rw [Cursor.followed, hrest, List.nil_append]
    cases untilEnd item count' ⟨more, finish, place.previous⟩ <;> rfl
  induction count generalizing before values with
  | zero =>
    obtain ⟨rfl, rfl⟩ := pure_eq_ok.mp h
    rw [List.length_nil, Nat.zero_add, hempty before hlast]
  | succ count ih =>
    rw [untilEnd, get_bind] at h
    split at h
    · obtain ⟨rfl, rfl⟩ := pure_eq_ok.mp h
      rw [List.length_nil, Nat.zero_add, hempty before hlast]
    · rename_i hrest
      obtain ⟨first, middle, hfirst, h⟩ := bind_eq_ok.mp h
      obtain ⟨others, last, hothers, hpure⟩ := bind_eq_ok.mp h
      obtain ⟨rfl, rfl⟩ := pure_eq_ok.mp hpure
      obtain ⟨hends', hlength, hsame⟩ := hitem hends hfirst
      have hcount : (first :: others).length + count' = others.length + count' + 1 := by
        rw [List.length_cons]
        omega
      rw [hcount, untilEnd, get_bind, Cursor.isEmpty_rest_followed (by omega), if_neg hrest,
        bind_of_ok (hsame (Nat.zero_le _) more finish)]
      have hbehind := ih hends' hothers
      cases hmore : untilEnd item count' ⟨more, finish, last.previous⟩ with
      | ok values after =>
        rw [hmore] at hbehind
        rw [bind_of_ok hbehind]
        rfl
      | error error after =>
        rw [hmore] at hbehind
        rw [bind_of_error hbehind]
        rfl

end Lists

theorem localAt_pathTail {count count' : Nat} (hends : before.Ends)
    (hlt : before.rest.length < count) (hle : count ≤ count') :
    LocalAt before 0 1 (pathTail count) (pathTail count') := by
  induction count generalizing before count' with
  | zero => exact absurd hlt (Nat.not_lt_zero _)
  | succ count ih =>
    obtain ⟨count', rfl⟩ := Nat.exists_eq_succ_of_ne_zero (Nat.ne_of_gt (Nat.zero_lt_of_lt hle))
    rw [pathTail, pathTail]
    refine (local_skip hends).bind 0 (fun found middle hends hlength => ?_) (by omega)
    refine localAt_ite ?_ (localAt_pure hends)
    refine (local_identifier hends).bind 0 (fun segment after hends hlength' => ?_) (by omega)
    exact (ih hends (by omega) (Nat.le_of_succ_le_succ hle)).map

theorem local_path : Local 1 1 path := by
  intro before hends
  refine (local_identifier hends).bind 0 (fun first middle hends _ => ?_) (by omega)
  refine .fuel_bind fun count hlt => ?_
  have htail := localAt_pathTail hends (Nat.lt_succ_self _) hlt
  exact htail.map

/-! ### Productions -/

theorem localAt_callForm {start : Span} :
    LocalAt before least need (do throw ⟨.callForm, ← spanFrom start⟩) parser' := by
  intro value after h
  cases h

theorem localAt_close {mark : Punctuation} {start : Span} {make : Span → Expr}
    (hends : before.Ends) :
    LocalAt before 1 1 (do expect mark; return make (← spanFrom start))
      (do expect mark; return make (← spanFrom start)) := by
  refine (local_expect hends).bind 0 (fun _ middle hends _ => ?_) (by omega)
  exact (localAt_spanFrom hends).map

section Nested

variable {expr : Parser Expr} (hexpr : Local 1 1 expr)

include hexpr

theorem local_argument : Local 1 1 (argument expr) := by
  intro before hends
  refine .get_bind 1 ?_ (fun hsize _ _ => by rw [Cursor.current_followed hsize]) (by omega)
  refine (local_label hends).bind 1 (fun name middle hends _ => ?_) (by omega)
  exact (hexpr hends).map

theorem local_callBehind {target method : String} {start : Span} :
    Local 1 0 (callBehind expr target method start) := by
  have hbehind (arguments : List Argument) : Local 1 0
      (do expect .rightParen; return Call.mk target method arguments (← spanFrom start)) := by
    intro before hends
    refine (local_expect hends).bind 0 (fun _ middle hends _ => ?_) (by omega)
    exact (localAt_spanFrom hends).map
  intro before hends
  refine (local_expect hends).bind 1 (fun _ middle hends _ => ?_) (by omega)
  refine .get_bind 1 ?_ (fun hsize _ _ => by rw [Cursor.isAt_followed hsize]) (by omega)
  refine localAt_ite (hbehind [] hends) (.fuel_bind fun count hlt => ?_)
  exact (localAt_separated (local_argument hexpr) hends (Nat.lt_succ_self _) hlt).bind 1
    (fun arguments last hends _ => hbehind arguments hends) (by omega)

theorem local_call : Local 1 0 (call expr) := by
  intro before hends
  refine .get_bind 1 ?_ (fun hsize _ _ => by rw [Cursor.current_followed hsize]) (by omega)
  refine (local_identifier hends).bind 1 (fun target middle hends _ => ?_) (by omega)
  refine (local_expect hends).bind 1 (fun _ middle hends _ => ?_) (by omega)
  refine (local_identifier hends).bind 1 (fun method middle hends _ => ?_) (by omega)
  exact local_callBehind hexpr hends

/-- A statement ends with its mark: whatever follows, it is read in the same way. -/
theorem local_statement : Local 1 0 (statement expr) := by
  intro before hends
  refine (local_call hexpr hends).bind 1 (fun made middle hends _ => ?_) (by omega)
  exact (local_expect hends).bind 0 (fun _ last hends _ => localAt_pure hends) (by omega)

theorem local_member : Local 1 1 (member expr) := by
  intro before hends
  refine .get_bind 1 ?_ (fun hsize _ _ => by rw [Cursor.current_followed hsize]) (by omega)
  refine (local_label hends).bind 1 (fun name middle hends _ => ?_) (by omega)
  cases name with
  | none =>
    refine (local_path hends).bind 0 (fun segments last hends _ => ?_) (by omega)
    exact (localAt_spanFrom hends).map
  | some name =>
    exact (hexpr hends).map

theorem local_newValue {start : Span} : Local 1 1 (newValue expr start) := by
  intro before hends
  refine (local_skip hends).bind 1 (fun found middle hends _ => localAt_ite ?_ ?_) (by omega)
  · refine (local_expect hends).bind 1 (fun _ middle hends _ => ?_) (by omega)
    refine (local_expect hends).bind 1 (fun _ middle hends _ => ?_) (by omega)
    refine .fuel_bind fun count hlt => ?_
    exact (localAt_listed hexpr hends (Nat.lt_succ_self _) hlt).bind 1
      (fun items last hends _ => localAt_close hends) (by omega)
  · refine (local_skip hends).bind 1 (fun found middle hends _ => ?_) (by omega)
    refine localAt_ite (.fuel_bind fun count hlt => ?_) localAt_expected
    exact (localAt_listed (local_member hexpr) hends (Nat.lt_succ_self _) hlt).bind 1
      (fun members last hends _ => localAt_close hends) (by omega)

theorem local_functionBehind {parameter : String} {start : Span} :
    Local 1 1 (functionBehind expr parameter start) := by
  intro before hends
  refine (local_skip hends).bind 1 (fun found middle hends _ => localAt_ite ?_ ?_) (by omega)
  · refine .fuel_bind fun count hlt => ?_
    exact (localAt_blockOf (local_statement hexpr) hends (Nat.lt_succ_self _) hlt).bind 1
      (fun statements last hends _ => localAt_close hends) (by omega)
  · refine (hexpr hends).bind 0 (fun body middle hends _ => ?_) (by omega)
    exact (localAt_spanFrom hends).map

theorem local_pathOrCall {start : Span} : Local 1 1 (pathOrCall expr start) := by
  intro before hends
  refine (local_path hends).bind 0 (fun segments middle hends _ => ?_) (by omega)
  refine .get_bind 1 ?_ (fun hsize _ _ => by rw [Cursor.isAt_followed hsize]) (by omega)
  refine localAt_ite ?_ ?_
  · rcases segments with - | ⟨target, - | ⟨method, - | ⟨more, segments⟩⟩⟩
    · exact localAt_callForm
    · exact localAt_callForm
    · exact (local_callBehind hexpr hends).bind 0
        (fun nested last hends _ => localAt_pure hends) (by omega)
    · exact localAt_callForm
  · exact (localAt_spanFrom hends).map

end Nested

theorem local_expression {depth : Nat} : Local 1 1 (expression depth) := by
  induction depth with
  | zero => exact fun _ _ => localAt_expected
  | succ depth ih =>
    intro before hends
    rw [expression]
    refine .get_bind 1 ?_ (fun hsize _ _ => by rw [Cursor.current_followed hsize]) (by omega)
    refine .get_bind 1 ?_ (fun hsize _ _ => by rw [Cursor.current_followed hsize]) (by omega)
    have hnumber {negative : Bool} {start : Span} {place : Cursor} (hends : place.Ends) :
        LocalAt place 1 1 (do return Expr.constant (← number negative) (← spanFrom start))
          (do return Expr.constant (← number negative) (← spanFrom start)) := by
      refine (local_number hends).bind 0 (fun value middle hends _ => ?_) (by omega)
      exact (localAt_spanFrom hends).map
    have hadvance (hkind : before.current.kind ≠ .endOfInput) := localAt_advance hends hkind
    have hliteral {value : Constant} {start : Span} (hkind : before.current.kind ≠ .endOfInput) :
        LocalAt before 1 1 (literal value start) (literal value start) := by
      refine (hadvance hkind).bind 0 (fun _ middle hends _ => ?_) (by omega)
      exact (localAt_spanFrom hends).map
    cases hkind : before.current.kind with
    | integer value => exact hnumber hends
    | long value => exact hnumber hends
    | double value => exact hnumber hends
    | string value => exact hliteral (by rw [hkind]; simp)
    | identifier name =>
      refine (local_label hends).bind 1 (fun parameter middle hends _ => ?_) (by omega)
      cases parameter with
      | some parameter => exact local_functionBehind ih hends
      | none => exact local_pathOrCall ih hends
    | keyword word =>
      cases word with
      | true => exact hliteral (by rw [hkind]; simp)
      | false => exact hliteral (by rw [hkind]; simp)
      | null => exact hliteral (by rw [hkind]; simp)
      | new =>
        exact (hadvance (by rw [hkind]; simp)).bind 1
          (fun _ middle hends _ => local_newValue ih hends) (by omega)
    | punctuation mark =>
      cases mark with
      | minus =>
        exact (hadvance (by rw [hkind]; simp)).bind 1 (fun _ middle hends _ => hnumber hends)
          (by omega)
      | _ => exact localAt_expected
    | endOfInput => exact localAt_expected
    | invalid error => exact localAt_expected

/-! ### Statements one behind the other -/

/-- A statement reads a token before it looks at where the last one stood. -/
theorem outcome_untilEnd_previous (expr : Parser Expr) (count : Nat) (rest : List Token)
    (finish : Token) (previous previous' : Span) :
    outcome (untilEnd (statement expr) count ⟨rest, finish, previous⟩) =
      outcome (untilEnd (statement expr) count ⟨rest, finish, previous'⟩) := by
  cases count with
  | zero => rfl
  | succ count =>
    cases rest with
    | nil => rfl
    | cons token rest =>
      obtain ⟨kind, span⟩ := token
      -- A statement starts with an identifier, and to pass it sets the previous span anew.
      cases kind <;> rfl

theorem outcome_eq_ok_iff {α : Type} {result : EStateM.Result ParseError Cursor α} {value : α} :
    outcome result = .ok value ↔ ∃ after, result = .ok value after := by
  cases result with
  | ok found after =>
    constructor
    · rintro ⟨⟩
      exact ⟨after, rfl⟩
    · rintro ⟨_, ⟨⟩⟩
      rfl
  | error error after =>
    constructor
    · rintro ⟨⟩
    · rintro ⟨_, ⟨⟩⟩

theorem outcome_prepended {α : Type} (items : List α)
    (result : EStateM.Result ParseError Cursor (List α)) :
    outcome (prepended items result) = (outcome result).map (items ++ ·) := by
  cases result <;> rfl

/-- A script in front of further tokens: its statements, and then what is read from these. -/
theorem parseFrom_followed {cursor : Cursor} {statements : List Call} (hends : cursor.Ends)
    (h : parseFrom cursor = .ok statements) (more : List Token) {finish : Token}
    (hfinish : finish.kind = .endOfInput) (previous : Span) :
    parseFrom (cursor.followed more finish) =
      (parseFrom ⟨more, finish, previous⟩).map (statements ++ ·) := by
  -- A bound for the depth above the number of all tokens lets one reader read all statements.
  obtain ⟨bound, hcursor, hmore, hboth⟩ : ∃ bound, cursor.rest.length < bound ∧
      more.length < bound ∧ (cursor.rest ++ more).length < bound :=
    ⟨(cursor.rest ++ more).length + 1, by rw [List.length_append]; omega,
      by rw [List.length_append]; omega, Nat.lt_succ_self _⟩
  have hitem : Local 1 0 (statement (expression bound)) := local_statement local_expression
  obtain ⟨after, hstatements⟩ := outcome_eq_ok_iff.mp h
  rw [program_eq_of_lt hends hcursor hcursor] at hstatements
  have hlast := (reads_untilEnd (sound_statement (sound_expression bound))
    (fun value h => h.ne_nil rfl) hends hcursor hstatements).1
  have hends' : (Cursor.mk more finish previous).Ends := hfinish
  have hends'' : (cursor.followed more finish).Ends := hfinish
  rw [parseFrom, parseFrom,
    program_eq_of_lt hends'' hboth (Nat.lt_add_left statements.length hboth),
    program_eq_of_lt hends' hmore hmore, untilEnd_followed hitem hends hstatements hlast,
    outcome_prepended, outcome_untilEnd_previous _ _ _ _ after.previous previous]

end Parser

end MigrationScript
