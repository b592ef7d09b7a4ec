import MigrationScript.Proofs.Token.Local
import MigrationScript.Proofs.Token.Spaced

namespace MigrationScript

namespace Lexer

variable {text : List Char} {offset : Nat}

/-! ### The closing parenthesis -/

theorem scan_rightParen {c : Char} (h : (scan c text).kind = .punctuation .rightParen) :
    c = ')' ∧ (scan c text).text = [')'] ∧ (scan c text).rest = text := by
  have hscan : scan c text = scanMark c text := scan_of_isMark (by rw [h]; trivial)
  rw [hscan] at h ⊢
  fun_cases scanMark c text with
  | case1 rest => cases h
  | case2 _ _ harrow mark hmark =>
    rw [scanMark, hmark] at h
    · obtain rfl : mark = .rightParen := TokenKind.punctuation.inj h
      unfold punctuation? at hmark
      split at hmark <;> first | exact ⟨rfl, rfl, rfl⟩ | cases hmark
    · exact harrow
  | case3 _ _ harrow hnone =>
    rw [scanMark, hnone] at h
    · cases h
    · exact harrow

/-! ### Gaps -/

/-- In front of the token behind a gap there is no other gap. -/
theorem skipGap_token {gap rest : List Char} {c : Char}
    (h : skipGap .blank text = (gap, c :: rest)) :
    Skipped (c :: rest) gap ∧ skipGap .blank (c :: rest) = ([], c :: rest) := by
  have hskipped := isGap_skipGap text
  have htext := skipGap_append .blank text
  rw [h] at hskipped htext
  have hgap : Skipped (c :: rest) gap := hskipped.resolve_right fun h => by cases h.1
  refine ⟨hgap, ?_⟩
  have hagain := skipGap_skipped (c :: rest) hgap fun hline => congrArg some (hline c rfl)
  rw [htext, h, Prod.mk.injEq] at hagain
  obtain ⟨hfront, hbehind⟩ := hagain
  exact Prod.ext (List.self_eq_append_right.mp hfront) hbehind.symm

/-- No token that is no error starts like a comment. -/
theorem skipGap_of_valid {gap rest : List Char} {c : Char}
    (h : skipGap .blank text = (gap, c :: rest))
    (hvalid : ∀ error, (scan c rest).kind ≠ .invalid error) (other : List Char) :
    skipGap .blank (gap ++ c :: other) = (gap, c :: other) := by
  obtain ⟨hskipped, htoken⟩ := skipGap_token h
  have hslash : c ≠ '/' := by
    rintro rfl
    exact hvalid (.unexpected '/') rfl
  have hblank : ¬isBlank c = true := by
    intro hblank
    rw [skipGap_of_ne hslash, if_pos hblank] at htoken
    cases htoken
  have hother : skipGap .blank (c :: other) = ([], c :: other) := by
    rw [skipGap_of_ne hslash, if_neg hblank]
  rw [skipGap_skipped (c :: other) hskipped fun hline => congrArg some (hline c rfl), hother,
    List.append_nil]

/-! ### Tokens -/

/-- What stands in front of a token does not matter for it and those behind it. -/
theorem exists_drop {front behind : List Token} {token : Token}
    (h : tokensFrom offset text = front ++ token :: behind) :
    ∃ skipped rest, text = skipped ++ rest ∧ offset + width skipped = token.span.start ∧
      tokensFrom token.span.start rest = token :: behind := by
  fun_induction tokensFrom offset text generalizing front with
  | case1 => cases (List.append_eq_nil_iff.mp h.symm).2
  | case2 offset text gap c rest hgap lexeme start stop =>
    rename_i ih
    cases front with
    | nil =>
      obtain ⟨htoken, hbehind⟩ := List.cons.inj h
      refine ⟨gap, c :: rest, ?_, ?_, ?_⟩
      · rw [← skipGap_append .blank text, hgap]
      · rw [← htoken]
      · rw [← htoken, tokensFrom_of_token _ (skipGap_token hgap).2, ← hbehind]
        rfl
    | cons first front =>
      obtain ⟨skipped, more, hmore, hstart, htokens⟩ := ih (List.cons.inj h).2
      refine ⟨gap ++ lexeme.text ++ skipped, more, ?_, ?_, htokens⟩
      · rw [List.append_assoc, ← hmore, append_of_skipGap hgap]
      · rw [← hstart, width_append, width_append]
        omega

/-- The tokens up to a closing parenthesis do not depend on what stands behind it. -/
theorem exists_take {run behind : List Token} {last : Token}
    (h : tokensFrom offset text = run ++ last :: behind)
    (hvalid : ∀ token ∈ run, ∀ error, token.kind ≠ .invalid error)
    (hlast : last.kind = .punctuation .rightParen) :
    ∃ front more, text = front ++ ')' :: more ∧ offset + width front + 1 = last.span.stop ∧
      ∀ other, tokensFrom offset (front ++ ')' :: other) =
        run ++ last :: tokensFrom last.span.stop other := by
  fun_induction tokensFrom offset text generalizing run with
  | case1 => cases (List.append_eq_nil_iff.mp h.symm).2
  | case2 offset text gap c rest hgap lexeme start stop =>
    rename_i ih
    have htext := append_of_skipGap hgap
    cases run with
    | nil =>
      obtain ⟨rfl, -⟩ := List.cons.inj h
      have hvalid : ∀ error, lexeme.kind ≠ .invalid error := fun error heq => by
        cases hlast.symm.trans heq
      obtain ⟨rfl, hmark, -⟩ := scan_rightParen hlast
      have hkind : lexeme.kind = .punctuation .rightParen := hlast
      have hstop : stop = start + 1 := congrArg (start + width ·) hmark
      refine ⟨gap, rest, ?_, hstop.symm, fun other => ?_⟩
      · rw [← skipGap_append .blank text, hgap]
      · rw [tokensFrom_of_token _ (skipGap_of_valid hgap hvalid other), hkind, hstop]
        rfl
    | cons first run =>
      obtain ⟨hfirst, hmore⟩ := List.cons.inj h
      obtain ⟨front, more, hrest, hstop, htokens⟩ := ih hmore
        fun token hmem => hvalid token (List.mem_cons_of_mem _ hmem)
      obtain ⟨read, hread, hlexeme⟩ := exists_read c rest
      have hkind := hvalid first List.mem_cons_self
      rw [← hfirst] at hkind
      refine ⟨gap ++ lexeme.text ++ front, more, ?_, ?_, fun other => ?_⟩
      · rw [List.append_assoc, ← hrest, htext]
      · rw [← hstop, width_append, width_append]
        omega
      · have hscan : scan c (read ++ (front ++ ')' :: other)) =
            { lexeme with rest := front ++ ')' :: other } :=
          scan_of_continues stops_rightParen hkind hread ⟨front, other, rfl, .inr ⟨more, hrest⟩⟩
        have hother := skipGap_of_valid hgap hkind (read ++ (front ++ ')' :: other))
        have hsame : gap ++ lexeme.text ++ front ++ ')' :: other =
            gap ++ c :: (read ++ (front ++ ')' :: other)) := by
          rw [hlexeme]
          simp
        rw [hsame, tokensFrom_of_token _ hother, hscan, ← hfirst, List.cons_append, ← htokens]

/-- The text from one token to a closing parenthesis has the tokens between them, and behind these
those of any text that is put behind it. -/
theorem exists_cut {front run behind : List Token} {last : Token}
    (h : tokensFrom 0 text = front ++ (run ++ last :: behind))
    (hvalid : ∀ token ∈ run, ∀ error, token.kind ≠ .invalid error)
    (hlast : last.kind = .punctuation .rightParen) :
    ∃ covered, (hull (run ++ [last])).slice? text = some covered ∧
      ∀ other, tokensFrom (hull (run ++ [last])).start (covered ++ other) =
        run ++ last :: tokensFrom last.span.stop other := by
  have hne : run ++ last :: behind ≠ [] :=
    List.append_ne_nil_of_right_ne_nil run (List.cons_ne_nil last behind)
  obtain ⟨first, others, hfirst⟩ := List.exists_cons_of_ne_nil hne
  have hhead : (run ++ [last]).head? = some first := by
    cases run with
    | nil => exact congrArg some (List.cons.inj hfirst).1
    | cons token run => exact congrArg some (List.cons.inj hfirst).1
  have hstart := hull_start hhead
  have hstop : (hull (run ++ [last])).stop = last.span.stop := hull_stop List.getLast?_concat
  rw [hfirst] at h
  obtain ⟨skipped, rest, rfl, hskipped, htokens⟩ := exists_drop h
  rw [← hfirst] at htokens
  obtain ⟨text, more, rfl, hwidth, hothers⟩ := exists_take htokens hvalid hlast
  refine ⟨text ++ [')'], Span.slice?_eq_some_iff.mpr ⟨skipped, more, ?_, ?_, ?_⟩, fun other => ?_⟩
  · simp
  · rw [hstart, ← hskipped, Nat.zero_add]
  · rw [hstart, hstop, ← hwidth, width_append]
    rfl
  · rw [hstart, List.append_assoc, List.singleton_append]
    exact hothers other

end Lexer

end MigrationScript
