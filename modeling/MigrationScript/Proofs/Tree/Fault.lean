import MigrationScript.Proofs.Token.Spaced
import MigrationScript.Proofs.Tree.Parse
import MigrationScript.Proofs.Tree.Viable

namespace MigrationScript

/-- The error is at the token and says what it is, or why it is none. -/
structure ParseError.Reports (error : ParseError) (found : Token) : Prop where
  span_eq : error.span = found.span
  lexical : ∀ lexical, found.kind = .invalid lexical →
    error.text = lexical.message ∧ error.expected? = none ∧ error.found? = none
  found_eq : (∀ lexical, found.kind ≠ .invalid lexical) → error.found? = some found.kind

theorem ParseError.reports_unexpected (expectation : Expectation) (found : Token) :
    (unexpected expectation found).Reports found := by
  obtain ⟨kind, span⟩ := found
  cases kind with
  | invalid error =>
    refine ⟨rfl, fun lexical hlexical => ?_, fun hvalid => absurd rfl (hvalid error)⟩
    cases hlexical
    exact ⟨rfl, rfl, rfl⟩
  | _ => exact ⟨rfl, nofun, fun _ => rfl⟩

theorem ParseError.cause_unexpected_ne (expectation : Expectation) (found : Token) :
    (unexpected expectation found).cause ≠ .callForm := by
  obtain ⟨kind, span⟩ := found
  cases kind <;> exact nofun

namespace Parser

theorem parse_eq_error_iff {source : String} {error : ParseError} :
    parse source = .error error ↔
      ∃ after, program (.ofSource source) = .error error after := by
  rw [parse]
  cases program (.ofSource source) with
  | ok statements after =>
    constructor
    · rintro ⟨⟩
    · rintro ⟨_, ⟨⟩⟩
  | error found after =>
    constructor
    · rintro ⟨⟩
      exact ⟨after, rfl⟩
    · rintro ⟨_, ⟨⟩⟩
      rfl

theorem spaced_ofSource (source : String) : Spaced (Cursor.ofSource source).rest :=
  Lexer.spaced_tokensFrom 0 source.toList

/-- A reader of scripts that fails with nothing left is at the end. -/
theorem current_eq_finish {before after : Cursor} {error : ParseError}
    (h : program before = .error error after) (hafter : after.rest = []) :
    after.current = before.finish := by
  obtain ⟨passed, hpassed⟩ := moves_program before
  rw [h] at hpassed
  rw [Cursor.current, hafter, ← hpassed.finish_eq]
  rfl

/-- A reader of scripts that fails in front of a token fails in every text with the same tokens up
to this one: no script starts with them. -/
theorem not_opens_of_error {before after : Cursor} {read behind : List Token} {found : Token}
    {error : ParseError} (hends : before.Ends) (h : program before = .error error after)
    (hrest : before.rest = read ++ found :: behind) (hafter : after.rest = found :: behind) :
    ¬Opens ProgramForm ((read ++ [found]).map (·.kind)) := by
  rintro ⟨more, statements, hform⟩
  let shared : Cursor := ⟨read ++ [found], before.finish, before.previous⟩
  let others : List Token := more.map (⟨·, default⟩)
  have hbefore : shared.followed behind before.finish = before := by
    rw [Cursor.followed, List.append_assoc, List.singleton_append, ← hrest]
  have hat : (shared.followed others before.finish).At
      ((read ++ [found]).map (·.kind) ++ more) := by
    refine ⟨hends, ?_⟩
    rw [Cursor.kinds, Cursor.followed, List.map_append, List.map_map]
    exact congrArg _ (List.map_id more)
  obtain ⟨parsed, last, hparsed, -⟩ := program_complete hform hat
  have halike : Alike before.finish behind others (program (shared.followed behind before.finish))
      (program (shared.followed others before.finish)) := alike_program behind others hends
  rw [hbefore, h, hparsed] at halike
  rcases halike with ⟨_, _, hfirst, -⟩ | ⟨_, _, -, hsecond⟩ | ⟨hfirst, -⟩
  · cases hfirst
  · cases hsecond
  · rw [place, hafter, List.length_cons] at hfirst
    omega

end Parser

/-- What is blamed is the next token, or the name in front of the parenthesis that it is. -/
theorem Blames.reports {read : List Token} {found : Token} {error : ParseError}
    (h : Blames ProgramForm read found error) (hspaced : Spaced read) :
    (error.cause ≠ .callForm → error.Reports found) ∧
    (error.cause = .callForm → found.kind = .punctuation .leftParen ∧
      ∃ front dotted segments first last, read = front ++ dotted ∧
        Opens ProgramForm (front.map (·.kind) ++ [.keyword .null]) ∧
        PathForm (dotted.map (·.kind)) segments ∧ segments.length ≠ 2 ∧
        dotted.head? = some first ∧ dotted.getLast? = some last ∧
        error.span = ⟨first.span.start, last.span.stop⟩) := by
  cases h with
  | unexpected expectation heq =>
    rw [heq]
    exact ⟨fun _ => ParseError.reports_unexpected expectation found,
      fun hcause => absurd hcause (ParseError.cause_unexpected_ne expectation found)⟩
  | @callForm front dotted first last segments hcause hfound hread hfront hpath hlength hfirst
      hlast hspan =>
    refine ⟨fun hne => absurd hcause hne, fun _ => ⟨hfound, ?_⟩⟩
    refine ⟨front, dotted, segments, first, last, hread, hfront, hpath, hlength, hfirst, hlast, ?_⟩
    rw [hread] at hspaced
    rw [hspan, hspaced.of_append_right.merge_eq hfirst hlast, ← hull_start hfirst,
      ← hull_stop hlast]

theorem not_programForm_of_parse_error {source : String} {error : ParseError}
    (h : parse source = .error error) (statements : List Call) :
    ¬ProgramForm (sourceKinds source) statements := by
  intro hform
  obtain ⟨parsed, hparsed, -⟩ := exists_parse_of_programForm hform
  cases h.symm.trans hparsed

/-- The parser reports the first token behind which no script goes on: what stands in front of it
starts a script, but not together with it; only the end of the input may come too early. The error
reports this token, unless the token opens the arguments of a call and the name in front of it has
not two parts. Then the name is at fault, which stands where an expression may start. -/
theorem parse_fails_at_first_fault {source : String} {error : ParseError}
    (h : parse source = .error error) :
    ∃ before found behind, tokenize source = before ++ found :: behind ∧
      Opens ProgramForm (before.map (·.kind)) ∧
      (found.kind ≠ .endOfInput → ¬Opens ProgramForm ((before ++ [found]).map (·.kind))) ∧
      (found.kind = .endOfInput →
        behind = [] ∧ ∀ statements, ¬ProgramForm (before.map (·.kind)) statements) ∧
      (error.cause ≠ .callForm → error.Reports found) ∧
      (error.cause = .callForm → found.kind = .punctuation .leftParen ∧
        ∃ front dotted segments first last, before = front ++ dotted ∧
          Opens ProgramForm (front.map (·.kind) ++ [.keyword .null]) ∧
          PathForm (dotted.map (·.kind)) segments ∧ segments.length ≠ 2 ∧
          dotted.head? = some first ∧ dotted.getLast? = some last ∧
          error.span = ⟨first.span.start, last.span.stop⟩) := by
  obtain ⟨after, hprogram⟩ := Parser.parse_eq_error_iff.mp h
  have hends := (at_ofSource source).ends
  obtain ⟨read, hrest, hopens, hblames⟩ := Parser.halts_program hends hprogram
  have hspaced := Parser.spaced_ofSource source
  rw [hrest] at hspaced
  have hblame := hblames.reports hspaced.of_append_left
  have htokens : tokenize source =
      (Cursor.ofSource source).rest ++ [(Cursor.ofSource source).finish] := rfl
  cases hafter : after.rest with
  | nil =>
    rw [Parser.current_eq_finish hprogram hafter] at hblame
    rw [hafter, List.append_nil] at hrest
    refine ⟨read, _, [], by rw [htokens, hrest], hopens, fun hne => absurd hends hne,
      fun _ => ⟨rfl, fun statements hform => ?_⟩, hblame⟩
    apply not_programForm_of_parse_error h statements
    rw [sourceKinds_eq]
    rwa [← hrest] at hform
  | cons found behind =>
    have hcurrent : after.current = found := by rw [Cursor.current, hafter, List.headD_cons]
    rw [hcurrent] at hblame
    rw [hafter] at hrest
    have hkind : found.kind ≠ .endOfInput := by
      refine ((Lexer.tiles_tokensFrom 0 source.toList).exists_slice width_nil found ?_).1
      have hmem : found ∈ (Cursor.ofSource source).rest := by simp [hrest]
      exact hmem
    refine ⟨read, found, behind ++ [(Cursor.ofSource source).finish], ?_, hopens, fun _ => ?_,
      fun heq => absurd heq hkind, hblame⟩
    · rw [htokens, hrest, List.append_assoc, List.cons_append]
    · exact Parser.not_opens_of_error hends hprogram hrest hafter

/-- A name of three parts in front of the arguments of a call. -/
theorem parse_fails_at_first_fault_threeParts :
    parse "mb.Sql(a.b.c());" = .error ⟨.callForm, ⟨7, 12⟩⟩ ∧
      ∃ before found behind, tokenize "mb.Sql(a.b.c());" = before ++ found :: behind ∧
        Opens ProgramForm (before.map (·.kind)) ∧
        ¬Opens ProgramForm ((before ++ [found]).map (·.kind)) ∧
        found.kind = .punctuation .leftParen := by
  have hparse : parse "mb.Sql(a.b.c());" = .error ⟨.callForm, ⟨7, 12⟩⟩ := by
    have herror : (parse "mb.Sql(a.b.c());").map List.length = .error ⟨.callForm, ⟨7, 12⟩⟩ := by
      decide +kernel
    cases hparse : parse "mb.Sql(a.b.c());" with
    | ok statements =>
      rw [hparse] at herror
      cases herror
    | error error =>
      rw [hparse] at herror
      cases herror
      rfl
  obtain ⟨before, found, behind, htokens, hopens, hnot, -, -, hcallForm⟩ :=
    parse_fails_at_first_fault hparse
  obtain ⟨hfound, -⟩ := hcallForm rfl
  exact ⟨hparse, before, found, behind, htokens, hopens, hnot (by rw [hfound]; simp), hfound⟩

end MigrationScript
