import Mathlib.Data.List.Infix
import MigrationScript.Token.Lexer

/-!
# Tokens and gaps make up the source

What lies between tokens is told by a grammar of white space and comments, so that a gap cannot hide
text that is left over.
-/

namespace MigrationScript

namespace Lexer

/-! ### White space and comments -/

/-- The end mark of a block comment does not stand in the text. -/
def KeepsOpen (comment : List Char) : Prop :=
  ¬['*', '/'] <:+: comment

/-- White space and comments in front of a text. A line comment takes the rest of its line, and a
block comment ends with its first end mark. -/
inductive Skipped (behind : List Char) : List Char → Prop
  | nil : Skipped behind []
  | blank {c : Char} {gap : List Char} :
    isBlank c = true → Skipped behind gap → Skipped behind (c :: gap)
  | line {comment gap : List Char} :
    '\n' ∉ comment → (∀ c ∈ (gap ++ behind).head?, c = '\n') → Skipped behind gap →
      Skipped behind ('/' :: '/' :: (comment ++ gap))
  | block {comment gap : List Char} :
    KeepsOpen (comment ++ ['*']) → Skipped behind gap →
      Skipped behind ('/' :: '*' :: (comment ++ '*' :: '/' :: gap))

/-- White space and comments up to a block comment that has no end. -/
def LeavesOpen (gap : List Char) : Prop :=
  ∃ front comment, gap = front ++ '/' :: '*' :: comment ∧ KeepsOpen comment ∧
    Skipped ('/' :: '*' :: comment) front

/-- What may lie in front of a token or of the end; only the end leaves a comment open. -/
def IsGap (behind gap : List Char) : Prop :=
  Skipped behind gap ∨ behind = [] ∧ LeavesOpen gap

section Gaps

variable {behind gap comment : List Char} {c : Char}

theorem keepsOpen_nil : KeepsOpen [] :=
  fun h => absurd (List.infix_nil.mp h) (List.cons_ne_nil _ _)

theorem KeepsOpen.cons (hnext : c = '*' → comment.head? ≠ some '/') (h : KeepsOpen comment) :
    KeepsOpen (c :: comment) := by
  intro hinfix
  rcases List.infix_cons_iff.mp hinfix with hprefix | hinfix
  · obtain ⟨rfl, hrest⟩ := List.cons_prefix_cons.mp hprefix
    obtain ⟨more, rfl⟩ := hrest
    exact hnext rfl rfl
  · exact h hinfix

theorem keepsOpen_singleton (c : Char) : KeepsOpen [c] :=
  .cons (fun _ => nofun) keepsOpen_nil

theorem LeavesOpen.blank (hblank : isBlank c = true) (h : LeavesOpen gap) :
    LeavesOpen (c :: gap) := by
  obtain ⟨front, comment, rfl, hopen, hskipped⟩ := h
  exact ⟨c :: front, comment, rfl, hopen, .blank hblank hskipped⟩

theorem LeavesOpen.line (hcomment : '\n' ∉ comment) (hline : ∀ c ∈ gap.head?, c = '\n')
    (h : LeavesOpen gap) : LeavesOpen ('/' :: '/' :: (comment ++ gap)) := by
  obtain ⟨front, open', rfl, hopen, hskipped⟩ := h
  refine ⟨'/' :: '/' :: (comment ++ front), open', ?_, hopen, .line hcomment hline hskipped⟩
  simp

theorem LeavesOpen.block (hcomment : KeepsOpen (comment ++ ['*'])) (h : LeavesOpen gap) :
    LeavesOpen ('/' :: '*' :: (comment ++ '*' :: '/' :: gap)) := by
  obtain ⟨front, open', rfl, hopen, hskipped⟩ := h
  refine ⟨'/' :: '*' :: (comment ++ '*' :: '/' :: front), open', ?_, hopen, ?_⟩
  · simp
  · exact .block hcomment hskipped

theorem IsGap.blank (hblank : isBlank c = true) (h : IsGap behind gap) : IsGap behind (c :: gap) :=
  h.imp (.blank hblank) (.imp_right (.blank hblank))

theorem IsGap.line (hcomment : '\n' ∉ comment) (hline : ∀ c ∈ (gap ++ behind).head?, c = '\n')
    (h : IsGap behind gap) : IsGap behind ('/' :: '/' :: (comment ++ gap)) := by
  rcases h with h | ⟨rfl, h⟩
  · exact .inl (.line hcomment hline h)
  · rw [List.append_nil] at hline
    exact .inr ⟨rfl, h.line hcomment hline⟩

theorem IsGap.block (hcomment : KeepsOpen (comment ++ ['*'])) (h : IsGap behind gap) :
    IsGap behind ('/' :: '*' :: (comment ++ '*' :: '/' :: gap)) :=
  h.imp (.block hcomment) (.imp_right (.block hcomment))

/-- A gap of which the front has been read: inside a comment its end comes first. -/
def IsGapFrom (behind : List Char) : Gap → List Char → Prop
  | .blank, gap => IsGap behind gap
  | .line, gap => ∃ comment further, gap = comment ++ further ∧ '\n' ∉ comment ∧
    (∀ c ∈ (further ++ behind).head?, c = '\n') ∧ IsGap behind further
  | .block, gap =>
    (∃ comment further, gap = comment ++ '*' :: '/' :: further ∧ KeepsOpen (comment ++ ['*']) ∧
      IsGap behind further) ∨
    behind = [] ∧ KeepsOpen gap

theorem IsGapFrom.newline (h : IsGap behind gap) : IsGapFrom behind .line ('\n' :: gap) := by
  refine ⟨[], '\n' :: gap, rfl, List.not_mem_nil, ?_, h.blank rfl⟩
  rintro _ ⟨⟩
  rfl

theorem IsGapFrom.consLine (hne : c ≠ '\n') (h : IsGapFrom behind .line gap) :
    IsGapFrom behind .line (c :: gap) := by
  obtain ⟨comment, further, rfl, hcomment, hline, hgap⟩ := h
  refine ⟨c :: comment, further, rfl, ?_, hline, hgap⟩
  exact List.not_mem_cons_of_ne_of_not_mem (Ne.symm hne) hcomment

/-- A character that begins no end mark is one more of the comment. -/
theorem IsGapFrom.consBlock (hnext : c = '*' → (gap ++ behind).head? ≠ some '/')
    (h : IsGapFrom behind .block gap) : IsGapFrom behind .block (c :: gap) := by
  rcases h with ⟨comment, further, rfl, hcomment, hgap⟩ | ⟨rfl, hopen⟩
  · have hhead : (comment ++ '*' :: '/' :: further ++ behind).head? =
        (comment ++ ['*']).head? := by
      cases comment <;> rfl
    exact .inl ⟨c :: comment, further, rfl, hcomment.cons (hhead ▸ hnext), hgap⟩
  · rw [List.append_nil] at hnext
    exact .inr ⟨rfl, hopen.cons hnext⟩

theorem isGapFrom_skipGap (place : Gap) (text : List Char) :
    IsGapFrom (skipGap place text).2 place (skipGap place text).1 := by
  fun_induction skipGap place text with
  | case1 rest gap behind heq ih =>
    rw [heq] at ih
    obtain ⟨comment, further, rfl, hcomment, hline, hgap⟩ := ih
    exact hgap.line hcomment hline
  | case2 rest gap behind heq ih =>
    rw [heq] at ih
    rcases ih with ⟨comment, further, rfl, hcomment, hgap⟩ | ⟨rfl, hopen⟩
    · exact hgap.block hcomment
    · exact .inr ⟨rfl, [], gap, rfl, hopen, .nil⟩
  | case3 c rest _ _ hblank gap behind heq ih =>
    rw [heq] at ih
    exact ih.blank hblank
  | case4 c rest => exact .inl .nil
  | case5 c rest gap behind heq ih =>
    rw [heq] at ih
    by_cases hnewline : c = '\n'
    · subst hnewline
      exact .newline ih
    · rw [if_neg hnewline] at ih
      exact ih.consLine hnewline
  | case6 rest gap behind heq ih =>
    rw [heq] at ih
    exact .inl ⟨[], gap, rfl, keepsOpen_singleton '*', ih⟩
  | case7 c rest hend gap behind heq ih =>
    have hrest := skipGap_append .block rest
    rw [heq] at ih hrest
    refine ih.consBlock fun hstar hslash => ?_
    -- An end mark that starts with this character would have been read before.
    obtain ⟨more, hmore⟩ := List.head?_eq_some_iff.mp hslash
    exact hend more hstar (hrest.symm.trans hmore)
  | case8 place =>
    cases place with
    | blank => exact .inl .nil
    | line =>
      refine ⟨[], [], rfl, List.not_mem_nil, fun c hc => ?_, .inl .nil⟩
      cases hc
    | block => exact .inr ⟨rfl, keepsOpen_nil⟩

theorem isGap_skipGap (text : List Char) :
    IsGap (skipGap .blank text).2 (skipGap .blank text).1 :=
  isGapFrom_skipGap .blank text

end Gaps

/-! ### Marks

Words, numbers and strings are neither marks nor the end. -/

section Kinds

/-- A mark or the end. -/
def IsMark : TokenKind → Prop
  | .punctuation _ | .endOfInput => True
  | _ => False

theorem Body.not_isMark (body : Body) (mark : List Char) : ¬IsMark (body.lexeme mark).kind := by
  unfold lexeme
  dsimp only
  split <;> exact id

theorem not_isMark_scanWord (mark text : List Char) : ¬IsMark (scanWord mark text).kind := by
  unfold scanWord
  dsimp only
  split <;> exact id

/-- A number, or the reason why there is none. -/
def IsNumber : TokenKind → Prop
  | .integer _ | .long _ | .double _ | .invalid _ => True
  | _ => False

theorem IsNumber.not_isMark {kind : TokenKind} (h : IsNumber kind) : ¬IsMark kind := by
  cases kind with
  | punctuation mark | endOfInput => exact h.elim
  | _ => exact id

theorem Numeral.isNumber_integer (numeral : Numeral) : IsNumber numeral.integer := by
  unfold integer
  split <;> exact trivial

theorem Numeral.isNumber_long (numeral : Numeral) : IsNumber numeral.long := by
  unfold long
  split <;> exact trivial

theorem Numeral.isNumber_closed (numeral : Numeral) {kind : TokenKind} (hkind : IsNumber kind) :
    IsNumber (numeral.closed kind).kind := by
  unfold closed
  split
  · split
    · exact trivial
    · exact hkind
  · exact hkind

theorem Numeral.isNumber_lexeme (numeral : Numeral) : IsNumber numeral.lexeme.kind := by
  have hkind : IsNumber (if numeral.isDouble then numeral.double else numeral.integer) := by
    split
    · exact trivial
    · exact numeral.isNumber_integer
  unfold lexeme
  split
  · split
    · exact numeral.isNumber_long
    · split
      · exact isNumber_closed _ trivial
      · exact isNumber_closed _ hkind
  · exact isNumber_closed _ hkind

theorem isNumber_scanNumber (text : List Char) : IsNumber (scanNumber text).kind := by
  unfold scanNumber
  dsimp only
  split
  · exact Numeral.isNumber_lexeme _
  · split
    · exact trivial
    · exact Numeral.isNumber_lexeme _

theorem not_isMark_scanAt (rest : List Char) : ¬IsMark (scanAt rest).kind := by
  fun_cases scanAt rest with
  | case1 rest => exact Body.not_isMark _ _
  | case2 => exact not_isMark_scanWord _ _
  | case3 => exact id
  | case4 => exact id

theorem scan_of_isMark {c : Char} {rest : List Char} (h : IsMark (scan c rest).kind) :
    scan c rest = scanMark c rest := by
  unfold scan at h ⊢
  split_ifs at h ⊢
  · exact absurd h (Body.not_isMark _ _)
  · exact absurd h (not_isMark_scanAt rest)
  · exact absurd h (isNumber_scanNumber _).not_isMark
  · exact absurd h (not_isMark_scanWord _ _)
  · rfl

theorem kind_scanMark_ne (c : Char) (rest : List Char) :
    (scanMark c rest).kind ≠ .endOfInput := by
  fun_cases scanMark c rest <;>
    · intro heq
      cases heq

theorem kind_scan_ne (c : Char) (rest : List Char) : (scan c rest).kind ≠ .endOfInput := by
  intro heq
  have hscan : scan c rest = scanMark c rest := scan_of_isMark (by rw [heq]; trivial)
  rw [hscan] at heq
  exact kind_scanMark_ne c rest heq

end Kinds

/-! ### Tokens and gaps, one behind the other -/

/-- From the offset on, the text is made up of the texts of the tokens and what is skipped in front
of each of them and behind the last. -/
inductive Tiles : Nat → List Char → List Token → Prop
  | finish {offset : Nat} {gap : List Char} :
    Skipped [] gap ∨ LeavesOpen gap → Tiles offset gap []
  | token {offset : Nat} {gap text rest : List Char} {kind : TokenKind} {tokens : List Token} :
    Skipped (text ++ rest) gap → text ≠ [] → kind ≠ .endOfInput →
      Tiles (offset + width gap + width text) rest tokens →
        Tiles offset (gap ++ (text ++ rest))
          (⟨kind, ⟨offset + width gap, offset + width gap + width text⟩⟩ :: tokens)

theorem tiles_tokensFrom (offset : Nat) (text : List Char) :
    Tiles offset text (tokensFrom offset text) := by
  fun_induction tokensFrom offset text with
  | case1 offset text gap hgap =>
    have hskipped := isGap_skipGap text
    have htext := skipGap_append .blank text
    rw [hgap] at hskipped htext
    rw [List.append_nil] at htext
    subst htext
    exact .finish (hskipped.imp_right And.right)
  | case2 offset text gap c rest hgap lexeme start stop ih =>
    have hskipped := isGap_skipGap text
    have htext := skipGap_append .blank text
    rw [hgap] at hskipped htext
    subst htext
    rw [← scan_append c rest] at hskipped ⊢
    refine .token (hskipped.resolve_right fun h => ?_) (scan_text_ne_nil c rest)
      (kind_scan_ne c rest) ih
    exact scan_text_ne_nil c rest (List.append_eq_nil_iff.mp h.1).1

namespace Tiles

variable {offset : Nat} {text front : List Char} {tokens : List Token}

theorem offset_le (h : Tiles offset text tokens) : ∀ token ∈ tokens, offset ≤ token.span.start := by
  induction h with
  | finish => exact fun _ hmem => absurd hmem List.not_mem_nil
  | token _ _ _ _ ih =>
    intro token hmem
    rcases List.mem_cons.mp hmem with rfl | hmem
    · exact Nat.le_add_right _ _
    · have := ih token hmem
      omega

theorem stop_le (h : Tiles offset text tokens) :
    ∀ token ∈ tokens, token.span.stop ≤ offset + width text := by
  induction h with
  | finish => exact fun _ hmem => absurd hmem List.not_mem_nil
  | token _ _ _ _ ih =>
    intro token hmem
    rw [width_append, width_append]
    rcases List.mem_cons.mp hmem with rfl | hmem
    · dsimp only
      omega
    · have := ih token hmem
      omega

theorem pairwise (h : Tiles offset text tokens) :
    tokens.Pairwise fun first second => first.span.stop ≤ second.span.start := by
  induction h with
  | finish => exact .nil
  | token _ _ _ hrest ih => exact .cons (fun token hmem => hrest.offset_le token hmem) ih

/-- Every token takes a text of the source, which starts at the offset behind some front. -/
theorem exists_slice (h : Tiles offset text tokens) (hfront : width front = offset) :
    ∀ token ∈ tokens, token.kind ≠ .endOfInput ∧
      ∃ taken, taken ≠ [] ∧ token.span.slice? (front ++ text) = some taken := by
  induction h generalizing front with
  | finish => exact fun _ hmem => absurd hmem List.not_mem_nil
  | @token offset gap taken rest kind tokens _ hne hkind _ ih =>
    intro token hmem
    rcases List.mem_cons.mp hmem with rfl | hmem
    · refine ⟨hkind, taken, hne, Span.slice?_eq_some_iff.mpr ⟨front ++ gap, rest, ?_, ?_, rfl⟩⟩
      · simp
      · rw [width_append, hfront]
    · have hfront' : width (front ++ (gap ++ taken)) = offset + width gap + width taken := by
        rw [width_append, width_append, hfront, Nat.add_assoc]
      have hrest := ih hfront' token hmem
      simpa using hrest

end Tiles

end Lexer

open Lexer

/-- A source is cut up into the texts of its tokens and what is skipped between them: white space
and comments, of which the last may have no end. The tokens stand one behind the other, each takes a
text that is not empty and is none but the last the end, which stands behind the whole source. -/
theorem tokens_tile_source (source : String) :
    ∃ tokens, tokenize source =
        tokens ++ [⟨.endOfInput, ⟨width source.toList, width source.toList⟩⟩] ∧
      Tiles 0 source.toList tokens ∧
      ((tokenize source).Pairwise fun first second => first.span.stop ≤ second.span.start) ∧
      ∀ token ∈ tokens, token.kind ≠ .endOfInput ∧
        ∃ taken, taken ≠ [] ∧ token.span.slice? source.toList = some taken := by
  have htiles := tiles_tokensFrom 0 source.toList
  refine ⟨tokensFrom 0 source.toList, rfl, htiles, ?_, htiles.exists_slice width_nil⟩
  refine List.pairwise_append.mpr ⟨htiles.pairwise, List.pairwise_singleton _ _, ?_⟩
  intro token hmem finish hfinish
  have hstop := htiles.stop_le token hmem
  rw [Nat.zero_add] at hstop
  rw [List.mem_singleton.mp hfinish]
  exact hstop

end MigrationScript
