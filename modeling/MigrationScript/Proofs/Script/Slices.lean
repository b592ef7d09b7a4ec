import MigrationScript.Proofs.Script.Concatenation
import MigrationScript.Proofs.Token.Cut
import MigrationScript.Proofs.Tree.Seats

/-!
# The places of nodes

A call ends with a closing parenthesis, behind which no token goes on that has started in the call.
So the bytes of a call are cut into the tokens that they have in the source, and can be read on
their own.
-/

namespace MigrationScript

open Lexer

section Slices

variable {source : String} {statements : List Call} {made : Call} {run : List Token}

/-- A call ends with its closing parenthesis. -/
theorem Sits.ends_with_rightParen (h : Sits run (.call made)) :
    ∃ front last, run = front ++ [last] ∧ last.kind = .punctuation .rightParen := by
  cases h with
  | node hspelt =>
    obtain ⟨target, method, arguments, hkinds⟩ := CallForm.kinds_eq hspelt
    obtain ⟨front, last, rfl⟩ := (List.eq_nil_or_concat' run).resolve_left fun hnil => by
      subst hnil
      cases hkinds
    refine ⟨front, last, rfl, ?_⟩
    have hlast := congrArg List.getLast? hkinds
    have hcall : callKinds target method arguments =
        ([.identifier target, .punctuation .dot, .identifier method, .punctuation .leftParen] ++
          arguments) ++ [.punctuation .rightParen] := by
      simp [callKinds]
    rw [hcall, List.map_append, List.map_singleton, List.getLast?_concat,
      List.getLast?_concat] at hlast
    exact Option.some.inj hlast

theorem alone_of_sits (h : Sits run (.call made)) : Alone run made := by
  cases h with
  | node _ _ halone => exact halone made rfl

theorem tokensFrom_semicolon (offset : Nat) :
    tokensFrom offset [';'] = [⟨.punctuation .semicolon, ⟨offset, offset + 1⟩⟩] := by
  have hmark : skipGap .blank [';'] = ([], [';']) := rfl
  rw [tokensFrom_of_token offset hmark, tokensFrom_of_gap _ rfl]
  rfl

/-- The bytes of a call and a semicolon have the tokens of the call and a semicolon, at the start of
the text. -/
theorem tokens_slice (h : parse source = .ok statements)
    (hrun : run <:+: (Tokenized.ofSource source).tokens) (hsits : Sits run (.call made)) :
    ∃ semicolon finish previous, semicolon.kind = .punctuation .semicolon ∧
      finish.kind = .endOfInput ∧
      (Cursor.ofSource (made.span.slice source ++ ";")).mapSpans (.shift made.span.start) =
        ⟨run ++ [semicolon], finish, previous⟩ := by
  have hspan : made.span = hull run := hsits.span_eq
  obtain ⟨front, last, rfl, hlast⟩ := hsits.ends_with_rightParen
  obtain ⟨before, behind, htokens⟩ := hrun
  have hsource : tokensFrom 0 source.toList = before ++ (front ++ last :: behind) := by
    rw [← List.append_assoc, List.append_cons, List.append_assoc before, htokens]
    rfl
  have hvalid : ∀ token ∈ front, ∀ error, token.kind ≠ .invalid error := fun token hmem =>
    valid_of_parse h token (by rw [hsource]; simp [hmem])
  obtain ⟨covered, hcovered, hothers⟩ := exists_cut hsource hvalid hlast
  rw [← hspan] at hcovered hothers
  have htext : (made.span.slice source ++ ";").toList = covered ++ [';'] := by
    rw [Span.slice, hcovered, String.toList_append, Option.getD_some, String.toList_ofList]
    rfl
  have hmoved := hothers [';']
  rw [tokensFrom_semicolon, ← Nat.zero_add made.span.start, tokensFrom_add, ← htext,
    List.append_cons] at hmoved
  exact ⟨_, _, _, rfl, rfl, congrArg (Cursor.mk · _ _) hmoved⟩

theorem movedParse_eq_singleton {change : Span → Span} {result : Except ParseError (List Call)}
    (h : movedParse change result = .ok [made]) :
    ∃ parsed, result = .ok [parsed] ∧ parsed.mapSpans change = made := by
  cases result with
  | ok parsed =>
    obtain ⟨only, rfl, honly⟩ := List.map_eq_singleton_iff.mp (Except.ok.inj h)
    exact ⟨only, rfl, honly⟩
  | error error => cases h

/-- The bytes of a call and a semicolon are read as the call, at the start of the text. -/
theorem parse_slice (h : parse source = .ok statements)
    (hrun : run <:+: (Tokenized.ofSource source).tokens) (hsits : Sits run (.call made)) :
    ∃ parsed, parse (made.span.slice source ++ ";") = .ok [parsed] ∧
      parsed.mapSpans (.shift made.span.start) = made := by
  obtain ⟨semicolon, finish, previous, hsemicolon, hfinish, hcursor⟩ := tokens_slice h hrun hsits
  apply movedParse_eq_singleton
  rw [← parseFrom_ofSource, ← parseFrom_mapSpans (Span.shift_merge _), hcursor]
  exact alone_of_sits hsits semicolon finish previous hsemicolon hfinish

end Slices

/-- Every node of a tree takes the bytes from the start of its first token to the stop of its last
one, and its tokens spell it; so it takes a text of the source that is not empty. The statements
stand one behind the other, and so do the nodes right below a node, within its bytes. The bytes of a
call, be it a statement or within others, are read on their own as this call and nothing else, at
the start of the text. -/
theorem nodes_stand_at_their_tokens (source : String) (statements : List Call)
    (h : parse source = .ok statements) :
    (statements.Pairwise fun first second => first.span.stop ≤ second.span.start) ∧
    ∀ statement ∈ statements, ∀ node, Within (.call statement) node →
      (∃ run first last, run <:+: tokenize source ∧ node.SpeltBy (run.map (·.kind)) ∧
        run.head? = some first ∧ run.getLast? = some last ∧
        node.span = ⟨first.span.start, last.span.stop⟩) ∧
      (∃ covered, covered ≠ [] ∧ node.span.slice? source.toList = some covered) ∧
      (∀ child ∈ node.children,
        node.span.start ≤ child.span.start ∧ child.span.stop ≤ node.span.stop) ∧
      (node.children.Pairwise fun first second => first.span.stop ≤ second.span.start) ∧
      ∀ made, node = .call made → ∃ parsed,
        parse (made.span.slice source ++ ";") = .ok [parsed] ∧
        parsed.mapSpans (.shift made.span.start) = made := by
  have hparts := parts_of_parse h
  have hspaced : Spaced (Tokenized.ofSource source).tokens := spaced_tokensFrom 0 source.toList
  refine ⟨List.pairwise_map.mp (hparts.pairwise hspaced), fun statement hstatement node hnode => ?_⟩
  obtain ⟨run, hall, hsits, -⟩ := exists_sits_of_within h hstatement hnode
  have hne := hsits.ne_nil
  obtain ⟨hinside, hapart⟩ := hsits.children (hspaced.of_sublist hall.sublist)
  refine ⟨⟨run, run.head hne, run.getLast hne, hall.trans ?_, hsits.spelt,
    List.head?_eq_some_head hne, List.getLast?_eq_some_getLast hne, ?_⟩, ?_, hinside, hapart, ?_⟩
  · exact (List.prefix_append _ _).isInfix
  · rw [hsits.span_eq, hull, List.head?_eq_some_head hne, List.getLast?_eq_some_getLast hne]
    rfl
  · rw [hsits.span_eq]
    exact (tiles_tokensFrom 0 source.toList).slice_hull hall hne
  · rintro made rfl
    exact parse_slice h hall hsits

theorem nodes_stand_at_their_tokens_twoStatements :
    ∃ first second, parse "a.B(); c.D(e => f.G(1));" = .ok [first, second] ∧
      first.span.stop ≤ second.span.start ∧
      ∃ parsed, parse (second.span.slice "a.B(); c.D(e => f.G(1));" ++ ";") = .ok [parsed] ∧
        parsed.mapSpans (.shift second.span.start) = second := by
  have hlength : (parse "a.B(); c.D(e => f.G(1));").map List.length = .ok 2 := by decide +kernel
  cases hparse : parse "a.B(); c.D(e => f.G(1));" with
  | error error =>
    rw [hparse] at hlength
    cases hlength
  | ok statements =>
    rw [hparse] at hlength
    obtain ⟨first, second, rfl⟩ := List.length_eq_two.mp (Except.ok.inj hlength)
    obtain ⟨hapart, hnodes⟩ := nodes_stand_at_their_tokens _ _ hparse
    obtain ⟨-, -, -, -, hread⟩ := hnodes second (by simp) (.call second) .self
    exact ⟨first, second, rfl, List.rel_of_pairwise_cons hapart (by simp), hread second rfl⟩

end MigrationScript
