import MigrationScript.Token.Lexer

namespace MigrationScript

/-! ### Classes of characters -/

/-- The code points of white space, one by one. -/
def blankCodes : List Nat :=
  blankRanges.flatMap fun range => List.range' range.1 (range.2 - range.1 + 1)

theorem mem_blankCodes {c : Char} (h : isBlank c = true) : c.toNat ∈ blankCodes := by
  obtain ⟨range, hrange, hlow, hhigh⟩ := exists_range_of_inRanges h
  refine List.mem_flatMap.mpr ⟨range, hrange, List.mem_range'_1.mpr ⟨hlow, ?_⟩⟩
  omega

/-- No letter and no number is white space. -/
theorem isBlank_of_isIdentifierPart {c : Char} (h : isIdentifierPart c = true) :
    isBlank c = false := by
  have hnone : ∀ code ∈ blankCodes, isIdentifierPart (Char.ofNat code) = false := by
    decide +kernel
  cases hblank : isBlank c with
  | false => rfl
  | true =>
    have hpart := hnone c.toNat (mem_blankCodes hblank)
    rw [Char.ofNat_toNat, h] at hpart
    exact hpart

theorem toNat_mem_of_isDecimalDigit {c : Char} (h : isDecimalDigit c = true) :
    c.toNat ∈ List.range' 48 10 := by
  simp only [isDecimalDigit, Bool.and_eq_true, decide_eq_true_eq, Char.le_def,
    UInt32.le_iff_toNat_le] at h
  refine List.mem_range'_1.mpr ?_
  exact ⟨h.1, Nat.lt_succ_of_le h.2⟩

theorem isIdentifierPart_of_isDecimalDigit {c : Char} (h : isDecimalDigit c = true) :
    isIdentifierPart c = true := by
  have hall : ∀ code ∈ List.range' 48 10, isIdentifierPart (Char.ofNat code) = true := by
    decide
  have hpart := hall c.toNat (toNat_mem_of_isDecimalDigit h)
  rwa [Char.ofNat_toNat] at hpart

theorem isDecimalDigit_of_isIdentifierStart {c : Char} (h : isIdentifierStart c = true) :
    isDecimalDigit c = false := by
  have hnone : ∀ code ∈ List.range' 48 10, isIdentifierStart (Char.ofNat code) = false := by
    decide
  cases hdigit : isDecimalDigit c with
  | false => rfl
  | true =>
    have hstart := hnone c.toNat (toNat_mem_of_isDecimalDigit hdigit)
    rw [Char.ofNat_toNat, h] at hstart
    exact hstart

/-- A character with a given property is none without it. -/
theorem ne_of_class {property : Char → Bool} {c other : Char} (h : property c = true)
    (hother : property other = false) : c ≠ other := by
  rintro rfl
  rw [h] at hother
  exact absurd hother (by decide)

namespace Lexer

/-! ### One token -/

/-- The kinds of the tokens of a text. -/
def kindsOf (text : List Char) : List TokenKind :=
  (tokensFrom 0 text).map (·.kind)

/-- Where a text starts in the source changes no kind. -/
theorem map_kind_tokensFrom (offset : Nat) (text : List Char) :
    (tokensFrom offset text).map (·.kind) = kindsOf text := by
  suffices h : ∀ length offset offset' text, text.length ≤ length →
      (tokensFrom offset text).map (·.kind) = (tokensFrom offset' text).map (·.kind) from
    h text.length offset 0 text (Nat.le_refl _)
  intro length
  induction length with
  | zero =>
    intro offset offset' text hlength
    rw [List.length_eq_zero_iff.mp (Nat.le_zero.mp hlength), tokensFrom, tokensFrom]
    rfl
  | succ length ih =>
    intro offset offset' text hlength
    rw [tokensFrom, tokensFrom]
    split
    · rfl
    · rename_i gap c rest hgap
      have hlt := length_rest_lt hgap
      rw [List.map_cons, List.map_cons]
      exact congrArg _ (ih _ _ _ (by omega))

theorem kindsOf_nil : kindsOf [] = [] := by
  rw [kindsOf, tokensFrom]
  rfl

/-- The tokens of a text are those behind the gap in front. -/
theorem kindsOf_eq (text : List Char) :
    kindsOf text =
      match (skipGap .blank text).2 with
      | [] => []
      | c :: rest => (scan c rest).kind :: kindsOf (scan c rest).rest := by
  rw [kindsOf, tokensFrom]
  split
  · rename_i hgap
    rw [hgap]
    rfl
  · rename_i gap c rest hgap
    rw [hgap, List.map_cons, map_kind_tokensFrom]

theorem skipGap_of_ne {c : Char} {rest : List Char} (hslash : c ≠ '/') :
    skipGap .blank (c :: rest) =
      if isBlank c then (c :: (skipGap .blank rest).1, (skipGap .blank rest).2)
      else ([], c :: rest) := by
  rw [skipGap]
  · exact fun _ heq _ => hslash heq
  · exact fun _ heq _ => hslash heq

theorem kindsOf_blank {c : Char} {rest : List Char} (hblank : isBlank c = true) :
    kindsOf (c :: rest) = kindsOf rest := by
  have hslash : c ≠ '/' := ne_of_class hblank (by decide)
  rw [kindsOf_eq, kindsOf_eq rest, skipGap_of_ne hslash, if_pos hblank]

/-- The first token of a text that has no gap in front. -/
theorem kindsOf_cons {c : Char} {rest : List Char} (hblank : isBlank c = false) (hslash : c ≠ '/') :
    kindsOf (c :: rest) = (scan c rest).kind :: kindsOf (scan c rest).rest := by
  rw [kindsOf_eq, skipGap_of_ne hslash, hblank]
  rfl

theorem kindsOf_blanks {gap rest : List Char} (hgap : ∀ c ∈ gap, isBlank c = true) :
    kindsOf (gap ++ rest) = kindsOf rest := by
  induction gap with
  | nil => rfl
  | cons c gap ih =>
    rw [List.cons_append, kindsOf_blank (hgap c List.mem_cons_self)]
    exact ih fun c hc => hgap c (List.mem_cons_of_mem _ hc)

/-! ### Marks -/

theorem scan_mark {c : Char} {mark : Punctuation} (hmark : punctuation? c = some mark)
    (hequals : c ≠ '=') (rest : List Char) : scan c rest = ⟨.punctuation mark, [c], rest⟩ := by
  unfold punctuation? at hmark
  split at hmark <;> cases hmark
  case h_12 => exact absurd rfl hequals
  all_goals rfl

theorem kindsOf_mark {c : Char} {rest : List Char} {mark : Punctuation}
    (hmark : punctuation? c = some mark) (hequals : c ≠ '=') :
    kindsOf (c :: rest) = .punctuation mark :: kindsOf rest := by
  have hblank : isBlank c = false := by
    unfold punctuation? at hmark
    split at hmark <;> first | rfl | cases hmark
  have hslash : c ≠ '/' := by
    rintro rfl
    cases hmark
  rw [kindsOf_cons hblank hslash, scan_mark hmark hequals]

theorem kindsOf_equals {c : Char} {rest : List Char} (h : c ≠ '>') :
    kindsOf ('=' :: c :: rest) = .punctuation .equals :: kindsOf (c :: rest) := by
  have hscan : scan '=' (c :: rest) = ⟨.punctuation .equals, ['='], c :: rest⟩ := by
    change scanMark '=' (c :: rest) = _
    unfold scanMark
    split
    · rename_i heq
      exact absurd (List.cons.inj heq).1 h
    · rfl
  rw [kindsOf_cons (by decide) (by decide), hscan]

theorem kindsOf_arrow {rest : List Char} :
    kindsOf ('=' :: '>' :: rest) = .punctuation .arrow :: kindsOf rest :=
  kindsOf_cons (by decide) (by decide)

/-! ### Words -/

/-- No word goes on into the text. -/
def Cut (rest : List Char) : Prop :=
  ∀ c ∈ rest.head?, isIdentifierPart c = false

theorem takeWhile_append_of_head {property : Char → Bool} {front rest : List Char}
    (hfront : front.all property = true) (hrest : ∀ c ∈ rest.head?, property c = false) :
    (front ++ rest).takeWhile property = front := by
  rw [List.takeWhile_append_of_pos (List.all_eq_true.mp hfront)]
  cases rest with
  | nil => rw [List.takeWhile_nil, List.append_nil]
  | cons c rest =>
    rw [List.takeWhile_cons_of_neg (by rw [hrest c rfl]; decide), List.append_nil]

theorem dropWhile_append_of_head {property : Char → Bool} {front rest : List Char}
    (hfront : front.all property = true) (hrest : ∀ c ∈ rest.head?, property c = false) :
    (front ++ rest).dropWhile property = rest := by
  have hsplit : (front ++ rest).takeWhile property ++ (front ++ rest).dropWhile property =
      front ++ rest := List.takeWhile_append_dropWhile
  rw [takeWhile_append_of_head hfront hrest] at hsplit
  exact List.append_cancel_left hsplit

/-- A name, unless it is a keyword. -/
def wordKind (word : List Char) : TokenKind :=
  match Keyword.ofText? (.ofList word) with
  | some keyword => .keyword keyword
  | none => .identifier (.ofList word)

theorem all_of_isWord {word : List Char} (h : Identifier.isWord word = true) :
    word.all isIdentifierPart = true := by
  cases word with
  | nil => rfl
  | cons c word =>
    rw [Identifier.isWord, Bool.and_eq_true] at h
    rw [List.all_cons, isIdentifierPart_of_start h.1, h.2]
    rfl

/-- A word is read to its end if the text behind it does not go on with it. -/
theorem scan_word {c : Char} {word rest : List Char}
    (hword : Identifier.isWord (c :: word) = true) (hcut : Cut rest) :
    scan c (word ++ rest) = ⟨wordKind (c :: word), c :: word, rest⟩ := by
  have hall := all_of_isWord hword
  have hstart : isIdentifierStart c = true := by
    rw [Identifier.isWord, Bool.and_eq_true] at hword
    exact hword.1
  have hscan : scan c (word ++ rest) = scanWord [] (c :: word ++ rest) := by
    rw [scan, if_neg (ne_of_class hstart (by decide)), if_neg (ne_of_class hstart (by decide)),
      if_neg (by rw [isDecimalDigit_of_isIdentifierStart hstart]; decide), if_pos hstart]
    rfl
  rw [hscan, scanWord, takeWhile_append_of_head hall hcut, dropWhile_append_of_head hall hcut,
    wordKind]
  dsimp only
  cases Keyword.ofText? (String.ofList (c :: word)) <;> rfl

/-- Behind a mark a word is a name, also where it is reserved. -/
theorem scan_at {word rest : List Char} (hword : Identifier.isWord word = true)
    (hcut : Cut rest) :
    scan '@' (word ++ rest) = ⟨.identifier (.ofList word), '@' :: word, rest⟩ := by
  have hall := all_of_isWord hword
  cases word with
  | nil => cases hword
  | cons c word =>
    have hstart : isIdentifierStart c = true := by
      rw [Identifier.isWord, Bool.and_eq_true] at hword
      exact hword.1
    have hscan : scan '@' (c :: (word ++ rest)) = scanWord ['@'] (c :: word ++ rest) := by
      change scanAt (c :: (word ++ rest)) = _
      unfold scanAt
      split
      · rename_i heq
        exact absurd (List.cons.inj heq).1 (ne_of_class hstart (by decide))
      · rename_i heq
        cases heq
        rw [if_pos hstart]
        rfl
      · rename_i heq
        cases heq
    rw [List.cons_append, hscan, scanWord, takeWhile_append_of_head hall hcut,
      dropWhile_append_of_head hall hcut]
    rfl

theorem isBlank_of_isWord {c : Char} {word : List Char}
    (hword : Identifier.isWord (c :: word) = true) : isBlank c = false ∧ c ≠ '/' := by
  rw [Identifier.isWord, Bool.and_eq_true] at hword
  exact ⟨isBlank_of_isIdentifierPart (isIdentifierPart_of_start hword.1),
    ne_of_class hword.1 (by decide)⟩

theorem kindsOf_word {word rest : List Char} (hword : Identifier.isWord word = true)
    (hcut : Cut rest) : kindsOf (word ++ rest) = wordKind word :: kindsOf rest := by
  cases word with
  | nil => cases hword
  | cons c word =>
    obtain ⟨hblank, hslash⟩ := isBlank_of_isWord hword
    rw [List.cons_append, kindsOf_cons hblank hslash, scan_word hword hcut]

end Lexer

end MigrationScript
