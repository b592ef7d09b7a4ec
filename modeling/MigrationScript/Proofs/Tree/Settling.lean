import Mathlib.Logic.Function.Iterate
import MigrationScript.Proofs.Tree.Fault
import MigrationScript.Proofs.Tree.Seats

/-!
# Attempts one after the other

An attempt starts where the one before has stopped, also where that one has failed. It takes a token
unless the first one is at fault; then nothing is taken by any further attempt either.
-/

namespace MigrationScript

namespace Cursor

/-- What an attempt to read a statement returns. -/
def answer (cursor : Cursor) : Except ParseError Call :=
  Parser.outcome (Parser.nextStatement cursor)

/-- The place that the attempt reaches, also where it fails. -/
def next (cursor : Cursor) : Cursor :=
  Parser.place (Parser.nextStatement cursor)

/-- The place that so many attempts reach. -/
def behind (cursor : Cursor) (attempts : Nat) : Cursor :=
  next^[attempts] cursor

/-- The place in a source that so many attempts reach. -/
def reached (source : String) (attempts : Nat) : Cursor :=
  (ofSource source).behind attempts

/-- An attempt fails at the token with which it starts: this token is at fault. -/
def Stuck (cursor : Cursor) (error : ParseError) : Prop :=
  cursor.answer = .error error ∧ error.span = cursor.current.span

/-- A name comes next, with which a statement may start. -/
def AtName (cursor : Cursor) : Prop :=
  ∃ name, cursor.current.kind = .identifier name

/-- The tokens that are left are not empty, and each stops before the next one starts, the last one
before the end. -/
structure Ordered (cursor : Cursor) : Prop where
  ends : cursor.Ends
  filled : ∀ token ∈ cursor.rest, token.span.start < token.span.stop
  apart : (cursor.rest ++ [cursor.finish]).Pairwise fun first second =>
    first.span.stop ≤ second.span.start

/-! ### Places in a source -/

section Places

variable {before after : Cursor} {read : List Token}

theorem ordered_ofSource (source : String) : (ofSource source).Ordered := by
  have htiles := Lexer.tiles_tokensFrom 0 source.toList
  refine ⟨rfl, htiles.filled, List.pairwise_append.mpr ⟨htiles.pairwise, ?_, ?_⟩⟩
  · exact List.pairwise_singleton _ _
  · intro token hmem finish hfinish
    have hstop := htiles.stop_le token hmem
    rw [Nat.zero_add] at hstop
    rwa [List.mem_singleton.mp hfinish]

theorem Passes.current_eq {first : Token} (h : before.Passes (first :: read) after) :
    before.current = first :=
  (Option.some.inj (h.head?_eq (List.cons_ne_nil first read))).symm

theorem Passes.append_finish (h : before.Passes read after) :
    before.rest ++ [before.finish] = read ++ (after.rest ++ [after.finish]) := by
  rw [h.rest_eq, h.finish_eq, List.append_assoc]

theorem Ordered.passes (h : before.Ordered) (hread : before.Passes read after) : after.Ordered := by
  have hapart := h.apart
  rw [hread.append_finish] at hapart
  refine ⟨hread.ends h.ends, ?_, (List.pairwise_append.mp hapart).2.1⟩
  intro token hmem
  apply h.filled
  rw [hread.rest_eq]
  exact List.mem_append_right read hmem

theorem current_mem (cursor : Cursor) : cursor.current ∈ cursor.rest ++ [cursor.finish] := by
  rw [current]
  cases cursor.rest with
  | nil => exact List.mem_singleton_self _
  | cons token rest => exact List.mem_cons_self

/-- The first token that is read starts before the others. -/
theorem Ordered.start_lt {first found : Token} (h : before.Ordered)
    (hread : before.Passes (first :: read) after)
    (hmem : found ∈ read ++ (after.rest ++ [after.finish])) :
    first.span.start < found.span.start := by
  have hfirst : first ∈ before.rest := by
    rw [hread.rest_eq]
    exact List.mem_append_left _ List.mem_cons_self
  have hapart := h.apart
  rw [hread.append_finish, List.cons_append] at hapart
  calc first.span.start < first.span.stop := h.filled first hfirst
    _ ≤ found.span.start := List.rel_of_pairwise_cons hapart hmem

/-- Behind the tokens that are read none starts before the first of them. -/
theorem Ordered.start_le (h : before.Ordered) (hread : before.Passes read after) :
    before.current.span.start ≤ after.current.span.start := by
  cases read with
  | nil =>
    have hcurrent : after.current = before.current := by
      rw [current, current, hread.rest_eq, hread.finish_eq, List.nil_append]
    rw [hcurrent]
  | cons first read =>
    rw [hread.current_eq]
    apply Nat.le_of_lt
    exact h.start_lt hread (List.mem_append_right read after.current_mem)

end Places

end Cursor

/-! ### One attempt -/

namespace Parser

variable {cursor after : Cursor} {error : ParseError}

/-- Where no name comes next an attempt fails, and the reader stays where it is. -/
theorem nextStatement_of_not_atName (h : ¬cursor.AtName) :
    nextStatement cursor = .error (.unexpected .identifier cursor.current) cursor := by
  have hname : identifier cursor = .error (.unexpected .identifier cursor.current) cursor := by
    rw [identifier, get_bind]
    cases hkind : cursor.current.kind with
    | identifier name => exact absurd ⟨name, hkind⟩ h
    | _ => rfl
  rw [nextStatement, bind_of_ok (fuel_eq cursor), statement]
  apply bind_of_error
  rw [call, get_bind]
  exact bind_of_error hname

theorem bites_call {depth : Nat} : Bites depth (call (expression depth)) := by
  intro cursor name hends hlt hkind
  have hbehind (target : String) : Tracks depth (do
      expect .dot
      let method ← identifier
      callBehind (expression depth) target method cursor.current.span) := by
    refine tracks_expect.bind fun _ => tracks_identifier.bind fun method => ?_
    exact tracks_callBehind tracks_expression.1 tracks_expression.2 (sound_expression depth)
  exact (bites_identifier.bind fun target => (hbehind target).moves) hends hlt hkind

/-- Where a name comes next an attempt reads it, also if it then fails. -/
theorem bites_nextStatement {bound : Nat} : Bites bound nextStatement := by
  intro cursor name hends _ hkind
  have hsemicolon (made : Call) : Tracks 0 (do expect .semicolon; return made) := tracks_expect.map
  rw [nextStatement, bind_of_ok (fuel_eq cursor)]
  exact (bites_call.bind fun made => (hsemicolon made).moves) hends (Nat.lt_succ_self _) hkind

/-- An expression that does not start with a name, such as null, starts no statement. -/
theorem not_opens_null : ¬Opens (StatementForm ExprForm) [.keyword .null] := by
  rintro ⟨rest, statement, h⟩
  generalize hkinds : [TokenKind.keyword .null] ++ rest = kinds at h
  cases h with
  | call h =>
    obtain ⟨target, method, arguments, rfl⟩ := h.kinds_eq
    cases hkinds

/-- The error of an attempt that has read a token is behind the start of this token. -/
theorem start_lt_of_error {first : Token} {read : List Token} (hordered : cursor.Ordered)
    (hread : cursor.Passes (first :: read) after)
    (h : nextStatement cursor = .error error after) : first.span.start < error.span.start := by
  obtain ⟨read', hrest, -, hblames⟩ := halts_nextStatement hordered.ends h
  obtain rfl : read' = first :: read :=
    List.append_cancel_right (hrest.symm.trans hread.rest_eq)
  cases hblames with
  | unexpected expectation heq =>
    rw [heq, (ParseError.reports_unexpected expectation after.current).span_eq]
    exact hordered.start_lt hread (List.mem_append_right read after.current_mem)
  | @callForm front dotted start last segments _ _ hfront hopens _ _ hstart hlast hspan =>
    -- The names at fault stand where an expression may start, which is not at the first token.
    cases front with
    | nil => exact absurd hopens not_opens_null
    | cons token front =>
      obtain ⟨rfl, rfl⟩ := List.cons.inj hfront
      have hlt {found : Token} (hmem : found ∈ dotted) : first.span.start < found.span.start := by
        apply hordered.start_lt hread
        apply List.mem_append_left
        exact List.mem_append_right front hmem
      rw [hspan]
      exact Nat.lt_min.mpr ⟨hlt (List.mem_of_head? hstart), hlt (List.mem_of_getLast? hlast)⟩

end Parser

namespace Cursor

variable {cursor : Cursor} {error : ParseError}

theorem nextStatement_eq (cursor : Cursor) :
    Parser.nextStatement cursor =
      match cursor.answer with
      | .ok statement => .ok statement cursor.next
      | .error error => .error error cursor.next := by
  rw [answer, next]
  cases Parser.nextStatement cursor <;> rfl

theorem exists_passes_next (cursor : Cursor) : ∃ taken, cursor.Passes taken cursor.next :=
  Parser.moves_nextStatement cursor

/-- What an attempt takes that returns a statement spells this statement. -/
theorem statementForm_of_answer {statement : Call} {taken : List Token} (hends : cursor.Ends)
    (htaken : cursor.Passes taken cursor.next) (h : cursor.answer = .ok statement) :
    StatementForm ExprForm (taken.map (·.kind)) statement.eraseSpans := by
  have hstatement := cursor.nextStatement_eq
  rw [h] at hstatement
  obtain ⟨kinds, hreads, hform⟩ := Parser.sound_nextStatement hends hstatement
  rwa [htaken.kinds_eq hreads]

theorem next_of_not_atName (h : ¬cursor.AtName) : cursor.next = cursor := by
  rw [next, Parser.nextStatement_of_not_atName h]
  rfl

theorem stuck_of_not_atName (h : ¬cursor.AtName) :
    cursor.Stuck (.unexpected .identifier cursor.current) := by
  constructor
  · rw [answer, Parser.nextStatement_of_not_atName h]
    rfl
  · exact (ParseError.reports_unexpected .identifier cursor.current).span_eq

theorem AtName.length_next_lt (h : cursor.AtName) (hends : cursor.Ends) :
    cursor.next.rest.length < cursor.rest.length := by
  obtain ⟨name, hname⟩ := h
  exact Parser.bites_nextStatement hends (Nat.lt_succ_self _) hname

theorem Stuck.not_atName (h : cursor.Stuck error) (hordered : cursor.Ordered) :
    ¬cursor.AtName := by
  -- At a name the attempt would read this token and then fail behind it.
  intro hname
  obtain ⟨hanswer, hspan⟩ := h
  obtain ⟨taken, htaken⟩ := cursor.exists_passes_next
  have hlt := hname.length_next_lt hordered.ends
  have hlength := htaken.length_rest
  have hne : taken ≠ [] := List.length_pos_iff.mp (by omega)
  obtain ⟨first, read, rfl⟩ := List.exists_cons_of_ne_nil hne
  have herror := cursor.nextStatement_eq
  rw [hanswer] at herror
  have hbehind := Parser.start_lt_of_error hordered htaken herror
  rw [hspan, htaken.current_eq] at hbehind
  exact absurd hbehind (Nat.lt_irrefl _)

/-- An attempt that fails is stuck exactly if it takes no token. -/
theorem stuck_iff (hordered : cursor.Ordered) :
    cursor.Stuck error ↔ cursor.answer = .error error ∧ cursor.next.rest = cursor.rest := by
  constructor
  · intro h
    rw [next_of_not_atName (h.not_atName hordered)]
    exact ⟨h.1, rfl⟩
  · rintro ⟨hanswer, hrest⟩
    have hname : ¬cursor.AtName := by
      intro hname
      have hlt := hname.length_next_lt hordered.ends
      rw [hrest] at hlt
      exact absurd hlt (Nat.lt_irrefl _)
    have hstuck := stuck_of_not_atName hname
    obtain rfl : ParseError.unexpected .identifier cursor.current = error :=
      Except.error.inj (hstuck.1.symm.trans hanswer)
    exact hstuck

/-! ### Many attempts -/

theorem behind_succ (cursor : Cursor) (attempts : Nat) :
    cursor.behind (attempts + 1) = (cursor.behind attempts).next :=
  Function.iterate_succ_apply' next attempts cursor

theorem behind_next (cursor : Cursor) (attempts : Nat) :
    cursor.next.behind attempts = cursor.behind (attempts + 1) :=
  (Function.iterate_succ_apply next attempts cursor).symm

theorem behind_add (cursor : Cursor) (attempts more : Nat) :
    cursor.behind (attempts + more) = (cursor.behind attempts).behind more := by
  rw [Nat.add_comm]
  exact Function.iterate_add_apply next more attempts cursor

theorem exists_passes_behind (cursor : Cursor) (attempts : Nat) :
    ∃ taken, cursor.Passes taken (cursor.behind attempts) := by
  induction attempts with
  | zero => exact ⟨[], .refl cursor⟩
  | succ attempts ih =>
    obtain ⟨taken, htaken⟩ := ih
    obtain ⟨more, hmore⟩ := (cursor.behind attempts).exists_passes_next
    rw [behind_succ]
    exact ⟨taken ++ more, htaken.trans hmore⟩

theorem behind_of_not_atName (h : ¬cursor.AtName) (attempts : Nat) :
    cursor.behind attempts = cursor :=
  Function.iterate_fixed (next_of_not_atName h) attempts

/-- Every attempt that is not stuck takes a token. -/
theorem exists_stuck_behind (hends : cursor.Ends) :
    ∃ attempts ≤ cursor.rest.length, ∃ error, (cursor.behind attempts).Stuck error := by
  -- By induction on the number of tokens that are left, which the next attempt lessens.
  induction hlength : cursor.rest.length using Nat.strong_induction_on generalizing cursor with
  | _ length ih =>
    subst hlength
    by_cases hname : cursor.AtName
    · have hlt := hname.length_next_lt hends
      obtain ⟨taken, htaken⟩ := cursor.exists_passes_next
      obtain ⟨attempts, hle, error, hstuck⟩ := ih _ hlt (htaken.ends hends) rfl
      rw [behind_next] at hstuck
      exact ⟨attempts + 1, by omega, error, hstuck⟩
    · exact ⟨0, Nat.zero_le _, _, stuck_of_not_atName hname⟩

theorem ordered_reached (source : String) (attempts : Nat) : (reached source attempts).Ordered := by
  obtain ⟨taken, htaken⟩ := (ofSource source).exists_passes_behind attempts
  exact (ordered_ofSource source).passes htaken

end Cursor

/-! ### What the attempts return -/

section Answers

variable {cursor last : Cursor} {statements : List Call}

theorem parseSome_succ (attempts : Nat) (cursor : Cursor) :
    parseSome (attempts + 1) cursor = cursor.answer :: parseSome attempts cursor.next := by
  rw [parseSome, cursor.nextStatement_eq]
  cases cursor.answer <;> rfl

theorem parseSome_eq_map (attempts : Nat) (cursor : Cursor) :
    parseSome attempts cursor =
      (List.range attempts).map fun earlier => (cursor.behind earlier).answer := by
  induction attempts generalizing cursor with
  | zero => rfl
  | succ attempts ih =>
    rw [parseSome_succ, ih, List.range_succ_eq_map, List.map_cons, List.map_map]
    refine congrArg₂ List.cons rfl (List.map_congr_left fun earlier _ => ?_)
    rw [Cursor.behind_next]
    rfl

theorem parseSome_of_not_atName (h : ¬cursor.AtName) (attempts : Nat) :
    parseSome attempts cursor =
      List.replicate attempts (.error (.unexpected .identifier cursor.current)) := by
  have hanswer (earlier : Nat) : (cursor.behind earlier).answer =
      .error (.unexpected .identifier cursor.current) := by
    rw [Cursor.behind_of_not_atName h]
    exact (Cursor.stuck_of_not_atName h).1
  rw [parseSome_eq_map]
  simp only [hanswer, List.map_const', List.length_range]

/-- The statements up to the end are read by one attempt each. -/
theorem parseSome_of_untilEnd {count : Nat}
    (h : Parser.untilEnd Parser.nextStatement count cursor = .ok statements last) (more : Nat) :
    parseSome (statements.length + more) cursor =
      statements.map .ok ++ parseSome more last := by
  induction count generalizing cursor statements with
  | zero =>
    obtain ⟨rfl, rfl⟩ := Parser.pure_eq_ok.mp h
    rw [List.length_nil, Nat.zero_add, List.map_nil, List.nil_append]
  | succ count ih =>
    rw [Parser.untilEnd, Parser.get_bind] at h
    split at h
    · obtain ⟨rfl, rfl⟩ := Parser.pure_eq_ok.mp h
      rw [List.length_nil, Nat.zero_add, List.map_nil, List.nil_append]
    · obtain ⟨first, middle, hfirst, h⟩ := Parser.bind_eq_ok.mp h
      obtain ⟨others, finish, hothers, hpure⟩ := Parser.bind_eq_ok.mp h
      obtain ⟨rfl, rfl⟩ := Parser.pure_eq_ok.mp hpure
      rw [List.length_cons, Nat.add_right_comm, parseSome, hfirst]
      dsimp only
      rw [ih hothers, List.map_cons, List.cons_append]

/-- Behind the statements of a script every attempt fails at the end. -/
theorem parseSome_of_parse {source : String} (h : parse source = .ok statements) (more : Nat) :
    parseSome (statements.length + more) (.ofSource source) = statements.map .ok ++
      List.replicate more (.error ⟨.unexpected .identifier .endOfInput,
        ⟨width source.toList, width source.toList⟩⟩) := by
  obtain ⟨last, hprogram⟩ := parse_eq_ok_iff.mp h
  rw [Parser.program, Parser.bind_of_ok (Parser.fuel_eq _)] at hprogram
  obtain ⟨hrest, kinds, hreads, -⟩ := Parser.reads_untilEnd Parser.sound_nextStatement
    (fun value h => h.ne_nil rfl) (at_ofSource source).ends (Nat.lt_succ_self _) hprogram
  have hcurrent : last.current = (Tokenized.ofSource source).finish := by
    rw [Cursor.current, hrest, List.headD_nil, hreads.finish_eq]
    rfl
  have hend : ¬last.AtName := by
    rintro ⟨name, hname⟩
    rw [hcurrent] at hname
    cases hname
  rw [parseSome_of_untilEnd hprogram, parseSome_of_not_atName hend, hcurrent]
  rfl

end Answers

/-- Statements are read from the start of a source one after the other, also behind attempts that
fail. No attempt goes back: each takes tokens that come next. One that returns a statement takes
tokens that by themselves are one statement of the grammar, the one that is returned. One that fails
takes no token exactly if it fails at the token with which it starts; then it leaves the reader as
it was, so that every later attempt returns the same error. Such an attempt comes after at most as
many others as the source has tokens, the end not counted. The statements of a script are returned
by one attempt each, and every attempt behind these fails at the end of the input. -/
theorem repeated_attempts_settle (source : String) :
    (∀ attempts, parseSome attempts (.ofSource source) =
      (List.range attempts).map fun earlier => (Cursor.reached source earlier).answer) ∧
    (∀ earlier later, earlier ≤ later →
      (∃ taken, (Cursor.reached source earlier).Passes taken (Cursor.reached source later)) ∧
      (Cursor.reached source earlier).current.span.start ≤
        (Cursor.reached source later).current.span.start) ∧
    (∀ attempts statement, (Cursor.reached source attempts).answer = .ok statement →
      ∃ taken,
        (Cursor.reached source attempts).Passes taken (Cursor.reached source (attempts + 1)) ∧
        StatementForm ExprForm (taken.map (·.kind)) statement.eraseSpans) ∧
    (∀ attempts error, (Cursor.reached source attempts).Stuck error ↔
      (Cursor.reached source attempts).answer = .error error ∧
        (Cursor.reached source (attempts + 1)).rest = (Cursor.reached source attempts).rest) ∧
    (∀ attempts error, (Cursor.reached source attempts).Stuck error → ∀ later, attempts ≤ later →
      Cursor.reached source later = Cursor.reached source attempts ∧
        (Cursor.reached source later).answer = .error error) ∧
    (∃ attempts ≤ (sourceKinds source).length, ∃ error,
      (Cursor.reached source attempts).Stuck error) ∧
    ∀ statements, parse source = .ok statements → ∀ more,
      parseSome (statements.length + more) (.ofSource source) = statements.map .ok ++
        List.replicate more (.error ⟨.unexpected .identifier .endOfInput,
          ⟨width source.toList, width source.toList⟩⟩) := by
  have hnext (attempts : Nat) :
      Cursor.reached source (attempts + 1) = (Cursor.reached source attempts).next :=
    Cursor.behind_succ _ attempts
  have hordered := Cursor.ordered_reached source
  refine ⟨fun attempts => parseSome_eq_map attempts _, ?_, ?_, ?_, ?_, ?_,
    fun statements h more => parseSome_of_parse h more⟩
  · intro earlier later hle
    obtain ⟨more, rfl⟩ := Nat.exists_eq_add_of_le hle
    obtain ⟨taken, htaken⟩ := (Cursor.reached source earlier).exists_passes_behind more
    rw [Cursor.reached, ← Cursor.behind_add] at htaken
    exact ⟨⟨taken, htaken⟩, (hordered earlier).start_le htaken⟩
  · intro attempts statement hanswer
    obtain ⟨taken, htaken⟩ := (Cursor.reached source attempts).exists_passes_next
    have hform := Cursor.statementForm_of_answer (hordered attempts).ends htaken hanswer
    rw [← hnext] at htaken
    exact ⟨taken, htaken, hform⟩
  · intro attempts error
    rw [hnext]
    exact Cursor.stuck_iff (hordered attempts)
  · intro attempts error hstuck later hle
    obtain ⟨more, rfl⟩ := Nat.exists_eq_add_of_le hle
    have hsame : Cursor.reached source (attempts + more) = Cursor.reached source attempts := by
      rw [Cursor.reached, Cursor.behind_add]
      exact Cursor.behind_of_not_atName (hstuck.not_atName (hordered attempts)) more
    rw [hsame]
    exact ⟨rfl, hstuck.1⟩
  · rw [← (at_ofSource source).length_rest]
    exact Cursor.exists_stuck_behind (at_ofSource source).ends

/-- Each of three attempts takes one of three names and fails behind it; the fourth is stuck. -/
example : (parseSome 5 (.ofSource "a b c")).map
      (fun | .ok _ => none | .error error => some error.span) =
    [some ⟨2, 3⟩, some ⟨4, 5⟩, some ⟨5, 5⟩, some ⟨5, 5⟩, some ⟨5, 5⟩] := by
  decide +kernel

end MigrationScript
