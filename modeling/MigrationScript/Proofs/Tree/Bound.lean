import MigrationScript.Proofs.Tree.Soundness

/-!
# Bounds on depth and number

The readers count down a bound to end. It never ends them: every step takes a token, and the bound
is above the number of tokens.
-/

namespace MigrationScript

namespace Parser

variable {α β : Type} {parser parser' : Parser α} {further further' : α → Parser β}
  {bound least : Nat}

/-- Both parsers do the same, also where they fail, while fewer tokens are left than the bound. -/
def Agrees (bound : Nat) (parser parser' : Parser α) : Prop :=
  ∀ ⦃cursor : Cursor⦄, cursor.Ends → cursor.rest.length < bound → parser cursor = parser' cursor

/-- Where the parser succeeds it has taken at least so many tokens. -/
def Takes (least : Nat) (parser : Parser α) : Prop :=
  ∀ ⦃before value after⦄, before.Ends → parser before = .ok value after →
    after.Ends ∧ after.rest.length + least ≤ before.rest.length

/-! ### Progress -/

theorem takes_of_reads
    (h : ∀ ⦃before value after⦄, before.Ends → parser before = .ok value after →
      ∃ kinds, before.Reads kinds after ∧ least ≤ kinds.length) : Takes least parser := by
  intro before value after hends hvalue
  obtain ⟨kinds, hread, hleast⟩ := h hends hvalue
  have hlength := hread.length_rest
  exact ⟨hread.ends hends, by omega⟩

theorem Sound.takes {form : Form α} (h : Sound parser form)
    (hne : ∀ {kinds value}, form kinds value → kinds ≠ []) : Takes 1 parser := by
  apply takes_of_reads
  intro before value after hends hvalue
  obtain ⟨kinds, hread, hform⟩ := h hends hvalue
  exact ⟨kinds, hread, List.length_pos_iff.mpr (hne hform)⟩

theorem takes_expected {expectation : Expectation} :
    Takes least (expected expectation : Parser α) :=
  fun _ _ _ _ h => absurd h expected_ne_ok

theorem takes_expect {mark : Punctuation} : Takes 1 (expect mark) :=
  takes_of_reads fun _ _ _ hends h => ⟨_, reads_expect hends h, Nat.le_refl _⟩

theorem takes_skip {mark : Punctuation} : Takes 0 (skip mark) :=
  takes_of_reads fun _ _ _ hends h => ⟨_, reads_skip hends h, Nat.zero_le _⟩

theorem takes_identifier : Takes 1 identifier :=
  takes_of_reads fun _ _ _ hends h => ⟨_, reads_identifier hends h, Nat.le_refl _⟩

theorem takes_label {mark : Punctuation} : Takes 0 (label mark) :=
  takes_of_reads fun _ _ _ hends h => ⟨_, reads_label hends h, Nat.zero_le _⟩

theorem takes_path : Takes 1 path :=
  sound_path.takes PathForm.ne_nil

/-! ### Agreement -/

theorem Agrees.refl (parser : Parser α) : Agrees bound parser parser :=
  fun _ _ _ => rfl

theorem Agrees.mono {bound' : Nat} (h : Agrees bound parser parser') (hle : bound' ≤ bound) :
    Agrees bound' parser parser' :=
  fun _ hends hlt => h hends (Nat.lt_of_lt_of_le hlt hle)

theorem Agrees.bind (h : Agrees (bound + least) parser parser') (htakes : Takes least parser)
    (hfurther : ∀ value, Agrees bound (further value) (further' value)) :
    Agrees (bound + least) (parser >>= further) (parser' >>= further') := by
  intro cursor hends hlt
  have heq := h hends hlt
  cases hvalue : parser cursor with
  | ok value after =>
    obtain ⟨hends', hle⟩ := htakes hends hvalue
    rw [bind_of_ok hvalue, bind_of_ok (heq ▸ hvalue)]
    exact hfurther value hends' (by omega)
  | error error after => rw [bind_of_error hvalue, bind_of_error (heq ▸ hvalue)]

/-- The same further step on both sides. -/
theorem Agrees.bind_same (h : Agrees bound parser parser') :
    Agrees bound (parser >>= further) (parser' >>= further) := by
  intro cursor hends hlt
  have heq := h hends hlt
  cases hvalue : parser cursor with
  | ok value after => rw [bind_of_ok hvalue, bind_of_ok (heq ▸ hvalue)]
  | error error after => rw [bind_of_error hvalue, bind_of_error (heq ▸ hvalue)]

/-- The same first step on both sides. -/
theorem Takes.agrees_bind (htakes : Takes least parser)
    (hfurther : ∀ value, Agrees bound (further value) (further' value)) :
    Agrees (bound + least) (parser >>= further) (parser >>= further') :=
  (Agrees.refl parser).bind htakes hfurther

theorem agrees_get_bind {further further' : Cursor → Parser β}
    (h : ∀ cursor, Agrees bound (further cursor) (further' cursor)) :
    Agrees bound (get >>= further) (get >>= further') :=
  fun cursor hends hlt => h cursor hends hlt

theorem agrees_fuel_bind {further further' : Nat → Parser β}
    (h : ∀ count, count ≤ bound → Agrees count (further count) (further' count)) :
    Agrees bound (fuel >>= further) (fuel >>= further') := by
  intro cursor hends hlt
  rw [bind_of_ok (fuel_eq cursor), bind_of_ok (fuel_eq cursor)]
  exact h _ hlt hends (Nat.lt_succ_self _)

theorem agrees_ite {condition : Prop} [Decidable condition] {other other' : Parser α}
    (h : Agrees bound parser parser') (hother : Agrees bound other other') :
    Agrees bound (if condition then parser else other) (if condition then parser' else other') := by
  split
  · exact h
  · exact hother

/-! ### Lists -/

section Lists

variable {item item' : Parser α} {count count' : Nat}

theorem agrees_separated (hitem : Agrees count item item') (htakes : Takes 1 item)
    (hle : count ≤ count') : Agrees count (separated item count) (separated item' count') := by
  induction count generalizing count' with
  | zero => exact fun _ _ hlt => absurd hlt (Nat.not_lt_zero _)
  | succ count ih =>
    obtain ⟨count', rfl⟩ := Nat.exists_eq_succ_of_ne_zero (Nat.ne_of_gt (Nat.zero_lt_of_lt hle))
    have ih := ih (hitem.mono (Nat.le_succ count)) (Nat.le_of_succ_le_succ hle)
    rw [separated, separated]
    refine hitem.bind htakes fun first => ?_
    refine takes_skip.agrees_bind fun found => ?_
    exact agrees_ite ih.bind_same (.refl _)

theorem agrees_listed (hitem : Agrees count item item') (htakes : Takes 1 item)
    (hle : count ≤ count') : Agrees count (listed item count) (listed item' count') := by
  induction count generalizing count' with
  | zero => exact fun _ _ hlt => absurd hlt (Nat.not_lt_zero _)
  | succ count ih =>
    obtain ⟨count', rfl⟩ := Nat.exists_eq_succ_of_ne_zero (Nat.ne_of_gt (Nat.zero_lt_of_lt hle))
    have ih := ih (hitem.mono (Nat.le_succ count)) (Nat.le_of_succ_le_succ hle)
    rw [listed, listed]
    refine agrees_get_bind fun cursor => ?_
    refine agrees_ite (.refl _) ?_
    refine hitem.bind htakes fun first => ?_
    refine takes_skip.agrees_bind fun found => ?_
    exact agrees_ite ih.bind_same (.refl _)

theorem agrees_blockOf (hitem : Agrees count item item') (htakes : Takes 1 item)
    (hle : count ≤ count') : Agrees count (blockOf item count) (blockOf item' count') := by
  induction count generalizing count' with
  | zero => exact fun _ _ hlt => absurd hlt (Nat.not_lt_zero _)
  | succ count ih =>
    obtain ⟨count', rfl⟩ := Nat.exists_eq_succ_of_ne_zero (Nat.ne_of_gt (Nat.zero_lt_of_lt hle))
    have ih := ih (hitem.mono (Nat.le_succ count)) (Nat.le_of_succ_le_succ hle)
    rw [blockOf, blockOf]
    refine agrees_get_bind fun cursor => ?_
    refine agrees_ite (.refl _) ?_
    refine agrees_get_bind fun cursor => ?_
    have hend : Takes 0 (expected (.mark .rightBrace) : Parser Unit) := takes_expected
    refine agrees_ite (hend.agrees_bind fun _ => ?_) ?_
    · exact hitem.bind htakes fun first => ih.bind_same
    · exact hitem.bind htakes fun first => ih.bind_same

theorem agrees_untilEnd (hitem : Agrees count item item') (htakes : Takes 1 item)
    (hle : count ≤ count') : Agrees count (untilEnd item count) (untilEnd item' count') := by
  induction count generalizing count' with
  | zero => exact fun _ _ hlt => absurd hlt (Nat.not_lt_zero _)
  | succ count ih =>
    obtain ⟨count', rfl⟩ := Nat.exists_eq_succ_of_ne_zero (Nat.ne_of_gt (Nat.zero_lt_of_lt hle))
    have ih := ih (hitem.mono (Nat.le_succ count)) (Nat.le_of_succ_le_succ hle)
    rw [untilEnd, untilEnd]
    refine agrees_get_bind fun cursor => ?_
    refine agrees_ite (.refl _) ?_
    exact hitem.bind htakes fun first => ih.bind_same

end Lists

/-! ### Productions -/

section Nested

variable {expr expr' : Parser Expr} (hexpr : Agrees bound expr expr')

include hexpr

theorem agrees_argument : Agrees bound (argument expr) (argument expr') := by
  rw [argument, argument]
  refine agrees_get_bind fun cursor => ?_
  refine takes_label.agrees_bind fun name => ?_
  exact hexpr.bind_same

theorem agrees_member : Agrees bound (member expr) (member expr') := by
  rw [member, member]
  refine agrees_get_bind fun cursor => ?_
  refine takes_label.agrees_bind fun name => ?_
  cases name with
  | none => exact .refl _
  | some name => exact hexpr.bind_same

section Calls

variable (hsound : Sound expr (ExprForm.under Expr.eraseSpans))

include hsound

theorem agrees_callBehind {target method : String} {start : Span} :
    Agrees bound (callBehind expr target method start) (callBehind expr' target method start) := by
  have htakes : Takes 1 (argument expr) := (sound_argument hsound).takes ArgumentForm.ne_nil
  rw [callBehind, callBehind]
  refine (takes_expect.agrees_bind fun _ => ?_).mono (Nat.le_succ bound)
  refine agrees_get_bind fun cursor => agrees_ite (.refl _) ?_
  refine agrees_fuel_bind fun count hle => Agrees.bind_same ?_
  exact agrees_separated ((agrees_argument hexpr).mono hle) htakes (Nat.le_refl count)

/-- The target takes a token, so that one token more may be left. -/
theorem agrees_call : Agrees (bound + 1) (call expr) (call expr') := by
  rw [call, call]
  refine agrees_get_bind fun cursor => ?_
  refine takes_identifier.agrees_bind fun target => ?_
  refine (takes_expect.agrees_bind fun _ => ?_).mono (Nat.le_succ bound)
  refine (takes_identifier.agrees_bind fun method => ?_).mono (Nat.le_succ bound)
  exact agrees_callBehind hexpr hsound

theorem agrees_statement : Agrees bound (statement expr) (statement expr') :=
  ((agrees_call hexpr hsound).mono (Nat.le_succ bound)).bind_same

theorem agrees_newValue {start : Span} :
    Agrees bound (newValue expr start) (newValue expr' start) := by
  have htakes : Takes 1 expr := hsound.takes ExprForm.ne_nil
  have htakes' : Takes 1 (member expr) := (sound_member hsound).takes MemberForm.ne_nil
  rw [newValue, newValue]
  refine takes_skip.agrees_bind fun found => agrees_ite ?_ ?_
  · refine (takes_expect.agrees_bind fun _ => ?_).mono (Nat.le_succ bound)
    refine (takes_expect.agrees_bind fun _ => ?_).mono (Nat.le_succ bound)
    refine agrees_fuel_bind fun count hle => Agrees.bind_same ?_
    exact agrees_listed (hexpr.mono hle) htakes (Nat.le_refl count)
  · refine takes_skip.agrees_bind fun found => agrees_ite ?_ (.refl _)
    refine agrees_fuel_bind fun count hle => Agrees.bind_same ?_
    exact agrees_listed ((agrees_member hexpr).mono hle) htakes' (Nat.le_refl count)

theorem agrees_functionBehind {parameter : String} {start : Span} :
    Agrees bound (functionBehind expr parameter start) (functionBehind expr' parameter start) := by
  have htakes : Takes 1 (statement expr) := (sound_statement hsound).takes StatementForm.ne_nil
  rw [functionBehind, functionBehind]
  refine takes_skip.agrees_bind fun found => agrees_ite ?_ hexpr.bind_same
  refine agrees_fuel_bind fun count hle => Agrees.bind_same ?_
  exact agrees_blockOf ((agrees_statement hexpr hsound).mono hle) htakes (Nat.le_refl count)

/-- The path in front takes a token, so that one token more may be left. -/
theorem agrees_pathOrCall {start : Span} :
    Agrees (bound + 1) (pathOrCall expr start) (pathOrCall expr' start) := by
  rw [pathOrCall, pathOrCall]
  refine takes_path.agrees_bind fun segments => ?_
  refine agrees_get_bind fun cursor => agrees_ite ?_ (.refl _)
  rcases segments with - | ⟨target, - | ⟨method, - | ⟨more, segments⟩⟩⟩
  · exact .refl _
  · exact .refl _
  · exact (agrees_callBehind hexpr hsound).bind_same
  · exact .refl _

end Calls

end Nested

theorem agrees_expression {depth depth' : Nat} (hle : depth ≤ depth') :
    Agrees depth (expression depth) (expression depth') := by
  induction depth generalizing depth' with
  | zero => exact fun _ _ hlt => absurd hlt (Nat.not_lt_zero _)
  | succ depth ih =>
    obtain ⟨depth', rfl⟩ := Nat.exists_eq_succ_of_ne_zero (Nat.ne_of_gt (Nat.zero_lt_of_lt hle))
    have ih := ih (Nat.le_of_succ_le_succ hle)
    have hsound := sound_expression depth
    rw [expression, expression]
    refine agrees_get_bind fun cursor => ?_
    intro before hends hlt
    rw [get_bind, get_bind]
    -- A token has been read before the next expression starts, so the smaller depths still reach.
    cases hkind : before.current.kind with
    | identifier name =>
      show (label .arrow >>= _) before = (label .arrow >>= _) before
      cases hlabel : label .arrow before with
      | ok parameter middle =>
        have hread := reads_label hends hlabel
        have hlength := hread.length_rest
        rw [bind_of_ok hlabel, bind_of_ok hlabel]
        cases parameter with
        | some parameter =>
          rw [labelKinds, List.length_cons, List.length_cons] at hlength
          exact agrees_functionBehind ih hsound (hread.ends hends) (by omega)
        | none => exact agrees_pathOrCall ih hsound (hread.ends hends) (by omega)
      | error error middle => rw [bind_of_error hlabel, bind_of_error hlabel]
    | keyword word =>
      cases word with
      | new =>
        have hread := Cursor.reads_advance hends (by rw [hkind]; simp)
        have hlength := hread.length_rest
        rw [List.length_singleton] at hlength
        exact agrees_newValue ih hsound (hread.ends hends) (by omega)
      | _ => rfl
    | punctuation mark => cases mark <;> rfl
    | _ => rfl

theorem agrees_nextStatement {bound depth : Nat} (hle : bound ≤ depth) :
    Agrees bound nextStatement (statement (expression depth)) := by
  intro cursor hends hlt
  rw [nextStatement, bind_of_ok (fuel_eq cursor)]
  exact agrees_statement (agrees_expression (Nat.le_trans hlt hle)) (sound_expression _) hends
    (Nat.lt_succ_self _)

/-- No bound on the depth of expressions or on the number of statements ends the reading. -/
theorem program_eq_of_lt {cursor : Cursor} (hends : cursor.Ends) {depth count : Nat}
    (hdepth : cursor.rest.length < depth) (hcount : cursor.rest.length < count) :
    program cursor = untilEnd (statement (expression depth)) count cursor := by
  rw [program, bind_of_ok (fuel_eq cursor)]
  exact agrees_untilEnd (agrees_nextStatement hdepth)
    (sound_nextStatement.takes StatementForm.ne_nil) hcount hends (Nat.lt_succ_self _)

end Parser

end MigrationScript
