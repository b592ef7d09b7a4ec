import MigrationScript.Proofs.Meaning.Layout
import MigrationScript.Proofs.Script.Program
import MigrationScript.Proofs.Token.Local
import MigrationScript.Proofs.Tree.Local

/-!
# Scripts one behind the other

A new line ends every token but a string that is open, and a program has no such token. What is left
is a block comment without an end, which would take the second source in.
-/

namespace MigrationScript

open Lexer

/-! ### Moved sources -/

theorem Span.shift_merge (distance : Nat) (a b : Span) :
    (a.merge b).shift distance = (a.shift distance).merge (b.shift distance) := by
  simp only [merge, shift, Span.mk.injEq]
  omega

/-- The tokens of a text that starts further on. -/
theorem tokensFrom_add (offset distance : Nat) (text : List Char) :
    tokensFrom (offset + distance) text =
      (tokensFrom offset text).map (Token.mapSpan (.shift distance)) := by
  fun_induction tokensFrom offset text with
  | case1 offset text gap hgap => exact tokensFrom_of_gap _ hgap
  | case2 offset text gap c rest hgap lexeme start stop ih =>
    have hstart : offset + distance + width gap = start + distance := by omega
    have hstop : start + distance + width lexeme.text = stop + distance := by omega
    rw [tokensFrom_of_token _ hgap, hstart, hstop]
    exact congrArg _ ih

/-- What stands behind the last token of the source ends within a block comment. -/
def EndsInComment (source : String) : Prop :=
  EndsOpen 0 source.toList

section Sources

variable {first : String} {statements : List Call}

theorem valid_of_parse (h : parse first = .ok statements) :
    ∀ token ∈ tokensFrom 0 first.toList, ∀ error, token.kind ≠ .invalid error := by
  intro token hmem error heq
  refine (tidy_of_parse h).valid error ?_
  rw [sourceKinds_eq, ← heq]
  exact List.mem_map_of_mem hmem

/-- The tokens of two sources with a new line between them. -/
theorem ofSource_append_line
    (hvalid : ∀ token ∈ tokensFrom 0 first.toList, ∀ error, token.kind ≠ .invalid error)
    (hclosed : ¬EndsInComment first) (second : String) :
    Cursor.ofSource (first ++ "\n" ++ second) =
      (Cursor.ofSource first).followed
        ((Cursor.ofSource second).mapSpans (.shift (width first.toList + 1))).rest
        ((Cursor.ofSource second).mapSpans (.shift (width first.toList + 1))).finish := by
  have htext : (first ++ "\n" ++ second).toList = first.toList ++ '\n' :: second.toList := by
    rw [String.toList_append, String.toList_append, List.append_assoc]
    rfl
  have htokens := tokensFrom_append_line second.toList hvalid hclosed
  rw [Nat.add_assoc, tokensFrom_add] at htokens
  have hlength : width (first ++ "\n" ++ second).toList =
      width second.toList + (width first.toList + 1) := by
    rw [htext, width_append, width_cons]
    have hline : '\n'.utf8Size = 1 := rfl
    omega
  have hfinish : (Tokenized.ofSource (first ++ "\n" ++ second)).finish =
      (Tokenized.ofSource second).finish.mapSpan (.shift (width first.toList + 1)) := by
    simp only [Tokenized.finish, Tokenized.ofSource, hlength, Token.mapSpan, Span.shift]
  simp only [Cursor.ofSource, Cursor.followed, Cursor.mapSpans, hfinish]
  simp only [Tokenized.ofSource, htext, htokens]

theorem parse_append_line (h : parse first = .ok statements) (hclosed : ¬EndsInComment first)
    (second : String) :
    parse (first ++ "\n" ++ second) =
      (movedParse (.shift (width first.toList + 1)) (parse second)).map (statements ++ ·) := by
  have hfirst : parseFrom (.ofSource first) = .ok statements := h ▸ parseFrom_ofSource first
  rw [← parseFrom_ofSource, ofSource_append_line (valid_of_parse h) hclosed,
    Parser.parseFrom_followed (at_ofSource first).ends hfirst _ rfl
      ((Cursor.ofSource second).mapSpans (.shift (width first.toList + 1))).previous,
    parseFrom_mapSpans (Span.shift_merge _), parseFrom_ofSource]

/-! ### Running one script behind the other -/

theorem execute_append (builder : String) (before behind : List Call) (recorded : List Operation) :
    execute builder (before ++ behind) recorded =
      match execute builder before recorded with
      | .ok () recorded => execute builder behind recorded
      | .error error recorded => .error error recorded := by
  induction before generalizing recorded with
  | nil => rfl
  | cons statement rest ih =>
    rw [List.cons_append]
    cases hoperation : statement.operation builder with
    | ok operation =>
      have happends := Call.appends_of_operation hoperation
      rw [execute_cons_of_appends happends, execute_cons_of_appends happends, ih]
    | error error =>
      have hfails := Call.failsWith_of_operation hoperation
      rw [execute_cons_of_failsWith hfails, execute_cons_of_failsWith hfails]

/-- The second script runs behind what the first one has recorded, unless that one fails. -/
theorem run_append_line (h : parse first = .ok statements) (hclosed : ¬EndsInComment first)
    {second : String} {others : List Call} (hsecond : parse second = .ok others) (builder : String)
    (recorded : List Operation) :
    run builder (first ++ "\n" ++ second) recorded =
      match run builder first recorded with
      | (recorded, .ok ()) =>
        (run builder second recorded).map id (moved (.shift (width first.toList + 1)))
      | failed => failed := by
  have hboth := parse_append_line h hclosed second
  rw [hsecond, movedParse] at hboth
  rw [← runParsed_parse, ← runParsed_parse, hboth, h, Except.map, runParsed, runParsed,
    execute_append]
  cases execute builder statements recorded with
  | ok value recorded =>
    dsimp only
    rw [execute_mapSpans, ← runParsed_parse, hsecond, runParsed]
    cases execute builder others recorded <;> rfl
  | error error recorded => rfl

end Sources

/-! ### Written scripts -/

/-- Behind a written script another token is read, so that no comment is open. -/
theorem not_endsInComment_render {builder : String} (hbuilder : Identifier.isValid builder = true)
    (layout : Layout) (operations : List Operation) :
    ¬EndsInComment (.ofList (render layout builder operations)) := by
  intro hopen
  obtain ⟨statements, hparse, -⟩ := parse_render hbuilder layout operations
  obtain ⟨kinds, hlines, -⟩ := writesLines_flatMap
    fun operation (_ : operation ∈ operations) => operation.writes_lines hbuilder
  have hmore : KeepsOpen ['\n', ';'] := .cons nofun (keepsOpen_singleton ';')
  have hsame := congrArg (List.map Token.kind)
    (tokensFrom_append_open (valid_of_parse hparse) hopen hmore)
  have halone := hlines.kindsOf_render layout []
  rw [List.append_nil, kindsOf_nil] at halone
  rw [map_kind_tokensFrom, map_kind_tokensFrom, String.toList_ofList, render_eq, halone,
    hlines.kindsOf_render, kindsOf_blank (by decide), kindsOf_mark rfl (by decide)] at hsame
  exact absurd (List.append_cancel_left hsame) (List.cons_ne_nil _ _)

theorem isValid_of_generate {layout : Layout} {builder text : String} {operations : List Operation}
    (h : generate layout builder operations = .ok text) :
    Identifier.isValid builder = true ∧ text = .ofList (render layout builder operations) := by
  rw [generate, generateError?] at h
  by_cases hbuilder : Identifier.isValid builder = true
  · rw [if_pos hbuilder] at h
    cases hfault : fault? operations with
    | none =>
      rw [hfault] at h
      cases h
      exact ⟨hbuilder, rfl⟩
    | some fault =>
      rw [hfault] at h
      cases h
  · rw [if_neg hbuilder] at h
    cases h

/-- A source that is a program and does not end within a block comment can be put in front of any
other: behind it and a new line that one is read as it is alone, with the same statements or the
same error further on by the bytes in front. If both are programs the second one runs behind what
the first one has recorded, and not at all if that one fails. Every script that is written can be
put in front. -/
theorem concatenated_sources :
    (∀ first statements, parse first = .ok statements → ¬EndsInComment first → ∀ second,
      (∀ others, parse second = .ok others →
        parse (first ++ "\n" ++ second) =
          .ok (statements ++ others.map (Call.mapSpans (.shift (width first.toList + 1)))) ∧
        ∀ builder recorded, run builder (first ++ "\n" ++ second) recorded =
          match run builder first recorded with
          | (recorded, .ok ()) =>
            (run builder second recorded).map id (moved (.shift (width first.toList + 1)))
          | failed => failed) ∧
      ∀ error, parse second = .error error →
        parse (first ++ "\n" ++ second) =
          .error (error.mapSpan (.shift (width first.toList + 1)))) ∧
    ∀ layout builder operations text, generate layout builder operations = .ok text →
      (∃ statements, parse text = .ok statements) ∧ ¬EndsInComment text := by
  refine ⟨fun first statements h hclosed second => ⟨fun others hothers => ⟨?_, ?_⟩, ?_⟩, ?_⟩
  · rw [parse_append_line h hclosed, hothers]
    rfl
  · exact run_append_line h hclosed hothers
  · intro error herror
    rw [parse_append_line h hclosed, herror]
    rfl
  · intro layout builder operations text htext
    obtain ⟨hbuilder, rfl⟩ := isValid_of_generate htext
    obtain ⟨statements, hparse, -⟩ := parse_render hbuilder layout operations
    exact ⟨⟨statements, hparse⟩, not_endsInComment_render hbuilder layout operations⟩

end MigrationScript
