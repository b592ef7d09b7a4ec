import MigrationScript.Token.Scan

namespace MigrationScript

namespace Lexer

/-- The text and the rest of a token are the text that was scanned. -/
def Lexeme.Covers (lexeme : Lexeme) (text : List Char) : Prop :=
  lexeme.text ++ lexeme.rest = text

theorem skipGap_append (gap : Gap) (text : List Char) :
    (skipGap gap text).1 ++ (skipGap gap text).2 = text := by
  fun_induction skipGap gap text <;> simp_all

theorem Body.append_cons {char : Char} {text : List Char} {body : Body} {rest : List Char}
    (h : body.text ++ body.rest = rest) :
    (body.cons char text).text ++ (body.cons char text).rest = text ++ rest := by
  rw [Body.cons, List.append_assoc, h]

theorem badCodePoint_append (rest : List Char) :
    (badCodePoint rest).text ++ (badCodePoint rest).rest = '\\' :: 'u' :: rest := by
  simp [badCodePoint]

theorem scanString_append (text : List Char) :
    (scanString text).text ++ (scanString text).rest = text := by
  fun_induction scanString text with
  | case1 => rfl
  | case2 => rfl
  | case3 => rfl
  | case4 => rfl
  | case5 a b c d rest char hchar ih => exact Body.append_cons ih
  | case6 a b c d rest hchar => exact badCodePoint_append _
  | case7 rest => exact badCodePoint_append _
  | case8 c rest _ _ char hchar ih => exact Body.append_cons ih
  | case9 => rfl
  | case10 c rest _ _ _ _ _ _ ih => exact Body.append_cons ih

theorem scanVerbatim_append (text : List Char) :
    (scanVerbatim text).text ++ (scanVerbatim text).rest = text := by
  fun_induction scanVerbatim text with
  | case1 => rfl
  | case2 rest ih => exact Body.append_cons ih
  | case3 => rfl
  | case4 c rest _ _ ih => exact Body.append_cons ih

theorem Body.covers_lexeme {mark rest : List Char} {body : Body}
    (h : body.text ++ body.rest = rest) : (body.lexeme mark).Covers (mark ++ rest) := by
  rw [Lexeme.Covers, Body.lexeme, List.append_assoc, h]

theorem covers_scanWord (mark text : List Char) : (scanWord mark text).Covers (mark ++ text) := by
  rw [Lexeme.Covers, scanWord, List.append_assoc, List.takeWhile_append_dropWhile]

theorem scanFraction_append (text : List Char) :
    (if (scanFraction text).1.isEmpty then [] else '.' :: (scanFraction text).1) ++
      (scanFraction text).2 = text := by
  fun_cases scanFraction text with
  | case1 c rest hdigit =>
    have hne : ((c :: rest).takeWhile isDecimalDigit).isEmpty = false := by
      rw [List.takeWhile_cons_of_pos hdigit]
      rfl
    simp only [hne, Bool.false_eq_true, if_false, List.cons_append,
      List.takeWhile_append_dropWhile]
  | case2 => rfl
  | case3 => rfl

theorem scanSign_append (text : List Char) : (scanSign text).1 ++ (scanSign text).2 = text := by
  fun_cases scanSign text <;> rfl

theorem scanPower_append {text : List Char} {power : Power} (h : scanPower text = some power) :
    power.text ++ power.rest = text := by
  fun_cases scanPower text with
  | case1 => simp [scanPower] at h
  | case2 c rest hmark sign after hsign digits value =>
    simp only [scanPower, if_pos hmark, hsign, Option.some.injEq] at h
    subst h
    have := scanSign_append rest
    rw [hsign] at this
    simp only [List.cons_append, List.append_assoc, List.takeWhile_append_dropWhile]
    rw [← this]
  | case3 c rest hmark => simp [scanPower, hmark] at h

theorem Numeral.covers_closed (numeral : Numeral) (kind : TokenKind) :
    (numeral.closed kind).Covers (numeral.text ++ numeral.rest) := by
  obtain ⟨text, value, isDouble, rest⟩ := numeral
  cases rest with
  | nil => rfl
  | cons c rest =>
    simp only [Numeral.closed]
    split <;> simp [Lexeme.Covers]

theorem Numeral.covers_lexeme (numeral : Numeral) :
    numeral.lexeme.Covers (numeral.text ++ numeral.rest) := by
  obtain ⟨text, value, isDouble, rest⟩ := numeral
  cases rest with
  | nil => exact Numeral.covers_closed _ _
  | cons c rest =>
    simp only [Numeral.lexeme]
    split
    · simp [Lexeme.Covers]
    · split
      · have := Numeral.covers_closed ⟨text ++ [c], value, isDouble, rest⟩
          (Numeral.double ⟨text, value, isDouble, c :: rest⟩)
        simpa using this
      · exact Numeral.covers_closed ⟨text, value, isDouble, c :: rest⟩ _

theorem covers_scanNumber (text : List Char) : (scanNumber text).Covers text := by
  have hfraction := scanFraction_append (text.dropWhile isDecimalDigit)
  have hfront : (if (scanFraction (text.dropWhile isDecimalDigit)).1.isEmpty then
        text.takeWhile isDecimalDigit
      else text.takeWhile isDecimalDigit ++
        '.' :: (scanFraction (text.dropWhile isDecimalDigit)).1) ++
      (scanFraction (text.dropWhile isDecimalDigit)).2 = text := by
    have hsplit := List.takeWhile_append_dropWhile (p := isDecimalDigit) (l := text)
    rw [← hfraction] at hsplit
    conv => rhs; rw [← hsplit]
    split <;> simp
  simp only [scanNumber]
  split
  · have := Numeral.covers_lexeme
      ⟨if (scanFraction (text.dropWhile isDecimalDigit)).1.isEmpty then
          text.takeWhile isDecimalDigit
        else text.takeWhile isDecimalDigit ++
          '.' :: (scanFraction (text.dropWhile isDecimalDigit)).1,
        .ofDigits (text.takeWhile isDecimalDigit)
          (scanFraction (text.dropWhile isDecimalDigit)).1 0,
        !(scanFraction (text.dropWhile isDecimalDigit)).1.isEmpty,
        (scanFraction (text.dropWhile isDecimalDigit)).2⟩
    rwa [hfront] at this
  · rename_i power hpower
    have hrest := scanPower_append hpower
    split
    · rw [Lexeme.Covers, List.append_assoc, hrest, hfront]
    · rename_i value _
      have := Numeral.covers_lexeme
        ⟨(if (scanFraction (text.dropWhile isDecimalDigit)).1.isEmpty then
            text.takeWhile isDecimalDigit
          else text.takeWhile isDecimalDigit ++
            '.' :: (scanFraction (text.dropWhile isDecimalDigit)).1) ++ power.text,
          .ofDigits (text.takeWhile isDecimalDigit)
            (scanFraction (text.dropWhile isDecimalDigit)).1 value, true, power.rest⟩
      rwa [List.append_assoc, hrest, hfront] at this

theorem covers_scanMark (c : Char) (rest : List Char) : (scanMark c rest).Covers (c :: rest) := by
  fun_cases scanMark c rest <;> rfl

theorem covers_scanAt (rest : List Char) : (scanAt rest).Covers ('@' :: rest) := by
  fun_cases scanAt rest with
  | case1 rest => exact Body.covers_lexeme (scanVerbatim_append rest)
  | case2 c rest _ => exact covers_scanWord ['@'] (c :: rest)
  | case3 => rfl
  | case4 => rfl

theorem scan_append (c : Char) (rest : List Char) :
    (scan c rest).text ++ (scan c rest).rest = c :: rest := by
  show (scan c rest).Covers (c :: rest)
  unfold scan
  split
  · rename_i h
    subst h
    exact Body.covers_lexeme (scanString_append rest)
  · split
    · rename_i h
      subst h
      exact covers_scanAt rest
    · split
      · exact covers_scanNumber _
      · split
        · exact covers_scanWord [] _
        · exact covers_scanMark _ _

theorem takeWhile_ne_nil {p : Char → Bool} {c : Char} {rest : List Char} (h : p c = true) :
    (c :: rest).takeWhile p ≠ [] := by
  rw [List.takeWhile_cons_of_pos h]
  exact List.cons_ne_nil _ _

theorem Numeral.closed_text_ne_nil {numeral : Numeral} (kind : TokenKind)
    (h : numeral.text ≠ []) : (numeral.closed kind).text ≠ [] := by
  obtain ⟨text, value, isDouble, rest⟩ := numeral
  cases rest with
  | nil => exact h
  | cons c rest =>
    simp only [Numeral.closed]
    split
    · simp
    · exact h

theorem Numeral.lexeme_text_ne_nil {numeral : Numeral} (h : numeral.text ≠ []) :
    numeral.lexeme.text ≠ [] := by
  obtain ⟨text, value, isDouble, rest⟩ := numeral
  cases rest with
  | nil => exact Numeral.closed_text_ne_nil _ h
  | cons c rest =>
    simp only [Numeral.lexeme]
    split
    · simp
    · split
      · exact Numeral.closed_text_ne_nil _ (by simp)
      · exact Numeral.closed_text_ne_nil _ h

theorem scanNumber_text_ne_nil {c : Char} {rest : List Char} (h : isDecimalDigit c = true) :
    (scanNumber (c :: rest)).text ≠ [] := by
  have hwhole : (c :: rest).takeWhile isDecimalDigit ≠ [] := takeWhile_ne_nil h
  simp only [scanNumber]
  split
  · apply Numeral.lexeme_text_ne_nil
    split
    · exact hwhole
    · simp
  · split
    · split <;> simp [hwhole]
    · apply Numeral.lexeme_text_ne_nil
      split <;> simp [hwhole]

theorem scan_text_ne_nil (c : Char) (rest : List Char) : (scan c rest).text ≠ [] := by
  unfold scan
  split
  · simp [Body.lexeme]
  · split
    · fun_cases scanAt rest <;> simp [Body.lexeme, scanWord]
    · split
      · rename_i h
        exact scanNumber_text_ne_nil h
      · split
        · rename_i h
          exact takeWhile_ne_nil (isIdentifierPart_of_start h)
        · fun_cases scanMark c rest <;> simp

end Lexer

end MigrationScript
