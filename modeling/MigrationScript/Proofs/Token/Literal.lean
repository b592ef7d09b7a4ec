import MigrationScript.Proofs.Token.Kinds
import MigrationScript.Script.Literal

namespace MigrationScript

namespace Lexer

/-! ### Strings -/

theorem hexValue4?_toUpper_hexDigits4 {code : Nat} (h : code < 160) :
    ∃ a b c d, (hexDigits4 code).map Char.toUpper = [a, b, c, d] ∧
      hexValue4? a b c d = some code := by
  have hall : ∀ code < 160,
      hexValue4? (code / 4096 % 16).digitChar.toUpper (code / 256 % 16).digitChar.toUpper
        (code / 16 % 16).digitChar.toUpper (code % 16).digitChar.toUpper = some code := by
    decide +kernel
  exact ⟨_, _, _, _, rfl, hall code h⟩

theorem scalar?_toNat (c : Char) : scalar? c.toNat = some c := by
  have hvalid : c.toNat.isValidChar := c.valid
  rw [scalar?, if_pos hvalid, Char.ofNat_toNat]

/-- A character that neither ends the string nor starts an escape. -/
theorem scanString_cons {c : Char} (rest : List Char) (hquote : c ≠ '"') (hbackslash : c ≠ '\\')
    (hnewline : c ≠ '\n') : scanString (c :: rest) = (scanString rest).cons c [c] := by
  rw [scanString]
  · exact hquote
  · exact hnewline
  · exact fun heq _ => hbackslash heq
  · exact fun _ _ _ _ _ heq _ => hbackslash heq
  · exact fun _ heq _ => hbackslash heq
  · exact fun _ _ heq _ => hbackslash heq

theorem scanString_control {c : Char} (rest : List Char) (h : isControl c = true) :
    ∃ text, scanString ('\\' :: 'u' :: (hexDigits4 c.toNat).map Char.toUpper ++ rest) =
      (scanString rest).cons c text := by
  have hcode : c.toNat < 160 := by
    simp only [isControl, Bool.or_eq_true, Bool.and_eq_true, decide_eq_true_eq] at h
    omega
  obtain ⟨w, x, y, z, hdigits, hvalue⟩ := hexValue4?_toUpper_hexDigits4 hcode
  refine ⟨['\\', 'u', w, x, y, z], ?_⟩
  rw [hdigits]
  change scanString ('\\' :: 'u' :: w :: x :: y :: z :: rest) = _
  rw [scanString, hvalue, Option.bind_some, scalar?_toNat]

/-- What is written for a character is read as that character. -/
theorem scanString_char (c : Char) (rest : List Char) :
    ∃ text, scanString (Literal.char c ++ rest) = (scanString rest).cons c text := by
  unfold Literal.char
  by_cases hquote : c = '"'
  · subst hquote
    exact ⟨_, rfl⟩
  by_cases hbackslash : c = '\\'
  · subst hbackslash
    exact ⟨_, rfl⟩
  by_cases hnewline : c = '\n'
  · subst hnewline
    exact ⟨_, rfl⟩
  by_cases hreturn : c = '\r'
  · subst hreturn
    exact ⟨_, rfl⟩
  by_cases htab : c = '\t'
  · subst htab
    exact ⟨_, rfl⟩
  by_cases hnull : c = '\x00'
  · subst hnull
    exact ⟨_, rfl⟩
  rw [if_neg hquote, if_neg hbackslash, if_neg hnewline, if_neg hreturn, if_neg htab, if_neg hnull]
  by_cases hcontrol : isControl c = true
  · rw [if_pos hcontrol]
    exact scanString_control rest hcontrol
  · rw [if_neg hcontrol]
    exact ⟨[c], scanString_cons rest hquote hbackslash hnewline⟩

/-- Inside the quotes a text is read as what it was written for, up to the closing quote. -/
theorem scanString_flatMap (text rest : List Char) :
    (scanString (text.flatMap Literal.char ++ '"' :: rest)).value = .ok text ∧
      (scanString (text.flatMap Literal.char ++ '"' :: rest)).rest = rest := by
  induction text with
  | nil => exact ⟨rfl, rfl⟩
  | cons c text ih =>
    obtain ⟨read, hchar⟩ := scanString_char c (text.flatMap Literal.char ++ '"' :: rest)
    rw [List.flatMap_cons, List.append_assoc, hchar, Body.cons, ih.1, ih.2]
    exact ⟨rfl, rfl⟩

theorem kindsOf_string (text : String) (rest : List Char) :
    kindsOf (Literal.string text ++ rest) = .string text :: kindsOf rest := by
  obtain ⟨hvalue, hrest⟩ := scanString_flatMap text.toList rest
  have htext : Literal.string text ++ rest =
      '"' :: (text.toList.flatMap Literal.char ++ '"' :: rest) := by
    rw [Literal.string, List.cons_append, List.cons_append, List.append_assoc,
      List.singleton_append]
  have hscan (body : List Char) : scan '"' body = (scanString body).lexeme ['"'] := rfl
  rw [htext, kindsOf_cons (by decide) (by decide), hscan, Body.lexeme, hvalue, hrest]
  dsimp only
  rw [String.ofList_toList]

/-! ### Numbers -/

/-- Nothing that could be joined to a number stands in front of the text. -/
structure Apart (rest : List Char) : Prop where
  cut : Cut rest
  point : rest.head? ≠ some '.'

theorem all_isDecimalDigit_toDigits (number : Nat) :
    (Nat.toDigits 10 number).all isDecimalDigit = true := by
  apply List.all_eq_true.mpr
  intro c hc
  have hdigit := Nat.isDigit_of_mem_toDigits (by decide) (by decide) hc
  simp only [Char.isDigit, Bool.and_eq_true, decide_eq_true_eq] at hdigit
  simp only [isDecimalDigit, Bool.and_eq_true, decide_eq_true_eq]
  exact hdigit

section Scan

variable {digits fraction rest : List Char}

theorem Apart.not_isDecimalDigit (h : Apart rest) : ∀ c ∈ rest.head?, isDecimalDigit c = false := by
  intro c hc
  cases hdigit : isDecimalDigit c with
  | false => rfl
  | true =>
    have hpart := isIdentifierPart_of_isDecimalDigit hdigit
    rw [h.cut c hc] at hpart
    exact hpart.symm

theorem Cut.head?_ne {c : Char} (h : Cut rest) (hpart : isIdentifierPart c = true) :
    rest.head? ≠ some c := by
  intro hc
  rw [h c hc] at hpart
  exact absurd hpart (by decide)

theorem scanFraction_of_ne (h : rest.head? ≠ some '.') : scanFraction rest = ([], rest) := by
  unfold scanFraction
  split
  · exact absurd rfl h
  · rfl

theorem scanFraction_digits (hne : fraction ≠ []) (hdigits : fraction.all isDecimalDigit = true)
    (hrest : ∀ c ∈ rest.head?, isDecimalDigit c = false) :
    scanFraction ('.' :: (fraction ++ rest)) = (fraction, rest) := by
  have htake := takeWhile_append_of_head hdigits hrest
  have hdrop := dropWhile_append_of_head hdigits hrest
  cases fraction with
  | nil => exact absurd rfl hne
  | cons c fraction =>
    rw [List.all_cons, Bool.and_eq_true] at hdigits
    rw [List.cons_append] at htake hdrop ⊢
    rw [scanFraction, if_pos hdigits.1, htake, hdrop]

theorem scanPower_of_cut (h : Cut rest) : scanPower rest = none := by
  have hlower : rest.head? ≠ some 'e' := h.head?_ne (by decide)
  have hupper : rest.head? ≠ some 'E' := h.head?_ne (by decide)
  cases rest with
  | nil => rfl
  | cons c rest =>
    rw [scanPower, if_neg]
    rintro (rfl | rfl)
    · exact hlower rfl
    · exact hupper rfl

theorem scanSign_digits (hne : digits ≠ []) (hdigits : digits.all isDecimalDigit = true) :
    scanSign (digits ++ rest) = ([], digits ++ rest) := by
  cases digits with
  | nil => exact absurd rfl hne
  | cons c digits =>
    rw [List.all_cons, Bool.and_eq_true] at hdigits
    rw [List.cons_append]
    unfold scanSign
    split
    · rename_i heq
      rw [(List.cons.inj heq).1] at hdigits
      exact absurd hdigits.1 (by decide)
    · rename_i heq
      rw [(List.cons.inj heq).1] at hdigits
      exact absurd hdigits.1 (by decide)
    · rfl

theorem scanPower_of_sign {text sign : List Char} (hsign : scanSign text = (sign, digits ++ rest))
    (hne : digits ≠ []) (hdigits : digits.all isDecimalDigit = true)
    (hrest : ∀ c ∈ rest.head?, isDecimalDigit c = false) :
    scanPower ('e' :: text) = some {
      text := 'e' :: sign ++ digits
      value := some (if sign = ['-'] then -(Nat.ofDigitChars 10 digits 0 : Int)
        else (Nat.ofDigitChars 10 digits 0 : Int))
      rest := rest } := by
  rw [scanPower, if_pos (.inl rfl), hsign]
  dsimp only
  rw [takeWhile_append_of_head hdigits hrest, dropWhile_append_of_head hdigits hrest,
    List.isEmpty_eq_false_iff.mpr hne]
  rfl

/-- A written power of ten is read as it was written. -/
theorem scanPower_integerText (power : Int) (hrest : ∀ c ∈ rest.head?, isDecimalDigit c = false) :
    ∃ text, scanPower ('e' :: (integerText power ++ rest)) = some ⟨text, some power, rest⟩ := by
  have hdigits := all_isDecimalDigit_toDigits power.natAbs
  have hne : Nat.toDigits 10 power.natAbs ≠ [] := Nat.toDigits_ne_nil
  unfold integerText
  by_cases hnegative : power < 0
  · rw [if_pos hnegative]
    have hsign : scanSign ('-' :: Nat.toDigits 10 power.natAbs ++ rest) =
        (['-'], Nat.toDigits 10 power.natAbs ++ rest) := rfl
    have hvalue : -(power.natAbs : Int) = power := by omega
    rw [scanPower_of_sign hsign hne hdigits hrest, if_pos rfl, Nat.ofDigitChars_ten_toDigits,
      hvalue]
    exact ⟨_, rfl⟩
  · rw [if_neg hnegative]
    have hvalue : (power.natAbs : Int) = power := by omega
    rw [scanPower_of_sign (scanSign_digits hne hdigits) hne hdigits hrest, if_neg (by decide),
      Nat.ofDigitChars_ten_toDigits, hvalue]
    exact ⟨_, rfl⟩

theorem closed_of_cut {numeral : Numeral} (kind : TokenKind) (h : Cut numeral.rest) :
    numeral.closed kind = ⟨kind, numeral.text, numeral.rest⟩ := by
  obtain ⟨text, value, isDouble, rest⟩ := numeral
  cases rest with
  | nil => rfl
  | cons c rest =>
    have hpart : isIdentifierPart c = false := h c rfl
    simp only [Numeral.closed, hpart, Bool.false_eq_true, if_false]

theorem lexeme_of_cut {numeral : Numeral} (h : Cut numeral.rest) :
    numeral.lexeme = ⟨if numeral.isDouble then numeral.double else numeral.integer,
      numeral.text, numeral.rest⟩ := by
  obtain ⟨text, value, isDouble, rest⟩ := numeral
  have hclosed := closed_of_cut (if isDouble then Numeral.double ⟨text, value, isDouble, rest⟩
    else Numeral.integer ⟨text, value, isDouble, rest⟩) h
  cases rest with
  | nil => exact hclosed
  | cons c rest =>
    have hne (other : Char) (hpart : isIdentifierPart other = true) : (c == other) = false := by
      rw [beq_eq_false_iff_ne]
      rintro rfl
      exact h.head?_ne hpart rfl
    simp only [Numeral.lexeme, hne 'L' (by decide), hne 'l' (by decide),
      hne 'D' (by decide), hne 'd' (by decide), Bool.or_self, Bool.and_false,
      Bool.false_eq_true, if_false]
    exact hclosed

end Scan

theorem scan_digit {c : Char} (rest : List Char) (hdigit : isDecimalDigit c = true) :
    scan c rest = scanNumber (c :: rest) := by
  rw [scan, if_neg (ne_of_class hdigit (by decide)), if_neg (ne_of_class hdigit (by decide)),
    if_pos hdigit]

/-- The first token of a text that starts with digits is a number. -/
theorem kindsOf_digits {digits rest : List Char} (hne : digits ≠ [])
    (hdigits : digits.all isDecimalDigit = true) :
    kindsOf (digits ++ rest) =
      (scanNumber (digits ++ rest)).kind :: kindsOf (scanNumber (digits ++ rest)).rest := by
  cases digits with
  | nil => exact absurd rfl hne
  | cons c digits =>
    rw [List.all_cons, Bool.and_eq_true] at hdigits
    have hpart := isIdentifierPart_of_isDecimalDigit hdigits.1
    rw [List.cons_append, kindsOf_cons (isBlank_of_isIdentifierPart hpart)
      (ne_of_class hdigits.1 (by decide)), scan_digit _ hdigits.1]

section Digits

variable {value : Nat} {whole fraction rest : List Char}

/-- Digits in front of a text that they cannot go on into are an integer. -/
theorem scanNumber_integer {digits : List Char} (hdigits : digits.all isDecimalDigit = true)
    (hrest : Apart rest) :
    scanNumber (digits ++ rest) =
      ⟨Numeral.integer ⟨digits, .ofDigits digits [] 0, false, rest⟩, digits, rest⟩ := by
  rw [scanNumber, takeWhile_append_of_head hdigits hrest.not_isDecimalDigit,
    dropWhile_append_of_head hdigits hrest.not_isDecimalDigit, scanFraction_of_ne hrest.point]
  simp only [scanPower_of_cut hrest.cut, List.isEmpty_nil]
  rw [lexeme_of_cut hrest.cut]
  rfl

/-- The mark of a long integer stands behind its digits. -/
theorem scanNumber_long {digits : List Char} {mark : Char}
    (hdigits : digits.all isDecimalDigit = true) (hmark : mark = 'L' ∨ mark = 'l') :
    scanNumber (digits ++ mark :: rest) =
      ⟨Numeral.long ⟨digits, .ofDigits digits [] 0, false, mark :: rest⟩, digits ++ [mark],
        rest⟩ := by
  have hhead : ∀ c ∈ (mark :: rest).head?, isDecimalDigit c = false := by
    rintro c ⟨⟩
    rcases hmark with rfl | rfl <;> decide
  rw [scanNumber, takeWhile_append_of_head hdigits hhead, dropWhile_append_of_head hdigits hhead]
  rcases hmark with rfl | rfl <;> rfl

theorem kindsOf_integer (hvalue : value < UInt64.size) (hrest : Apart rest) :
    kindsOf (Nat.toDigits 10 value ++ rest) = .integer value :: kindsOf rest := by
  have hdigits := all_isDecimalDigit_toDigits value
  rw [kindsOf_digits Nat.toDigits_ne_nil hdigits, scanNumber_integer hdigits hrest]
  simp only [Numeral.integer, Numeral.word?, Decimal.ofDigits, List.append_nil,
    Nat.ofDigitChars_ten_toDigits, if_pos hvalue]

theorem kindsOf_long (hvalue : value < UInt64.size) :
    kindsOf (Nat.toDigits 10 value ++ 'L' :: rest) = .long value :: kindsOf rest := by
  have hdigits := all_isDecimalDigit_toDigits value
  rw [kindsOf_digits Nat.toDigits_ne_nil hdigits, scanNumber_long hdigits (.inl rfl)]
  simp only [Numeral.long, Numeral.word?, Decimal.ofDigits, List.append_nil,
    Nat.ofDigitChars_ten_toDigits, if_pos hvalue]

theorem kindsOf_pointed (hwhole : whole ≠ []) (hwhole' : whole.all isDecimalDigit = true)
    (hfraction : fraction ≠ []) (hfraction' : fraction.all isDecimalDigit = true)
    (hrest : Apart rest) :
    kindsOf (whole ++ '.' :: (fraction ++ rest)) =
      .double (.ofDecimal false (.ofDigits whole fraction 0)) :: kindsOf rest := by
  have hpoint : ∀ c ∈ ('.' :: (fraction ++ rest)).head?, isDecimalDigit c = false := by
    rintro c ⟨⟩
    decide
  rw [kindsOf_digits hwhole hwhole', scanNumber, takeWhile_append_of_head hwhole' hpoint,
    dropWhile_append_of_head hwhole' hpoint,
    scanFraction_digits hfraction hfraction' hrest.not_isDecimalDigit]
  simp only [scanPower_of_cut hrest.cut, List.isEmpty_eq_false_iff.mpr hfraction]
  rw [lexeme_of_cut hrest.cut]
  rfl

/-- Digits without a point and a power of ten. -/
theorem kindsOf_power (power : Int) (hwhole : whole ≠ [])
    (hwhole' : whole.all isDecimalDigit = true) (hrest : Apart rest) :
    kindsOf (whole ++ 'e' :: (integerText power ++ rest)) =
      .double (.ofDecimal false (.ofDigits whole [] power)) :: kindsOf rest := by
  have hmark : ∀ c ∈ ('e' :: (integerText power ++ rest)).head?, isDecimalDigit c = false := by
    rintro c ⟨⟩
    decide
  obtain ⟨text, hpower⟩ := scanPower_integerText power hrest.not_isDecimalDigit
  rw [kindsOf_digits hwhole hwhole', scanNumber, takeWhile_append_of_head hwhole' hmark,
    dropWhile_append_of_head hwhole' hmark, scanFraction_of_ne (by simp)]
  simp only [hpower]
  rw [lexeme_of_cut hrest.cut]
  rfl

theorem kindsOf_pointed_power (power : Int) (hwhole : whole ≠ [])
    (hwhole' : whole.all isDecimalDigit = true) (hfraction : fraction ≠ [])
    (hfraction' : fraction.all isDecimalDigit = true) (hrest : Apart rest) :
    kindsOf (whole ++ '.' :: (fraction ++ 'e' :: (integerText power ++ rest))) =
      .double (.ofDecimal false (.ofDigits whole fraction power)) :: kindsOf rest := by
  have hpoint : ∀ c ∈ ('.' :: (fraction ++ 'e' :: (integerText power ++ rest))).head?,
      isDecimalDigit c = false := by
    rintro c ⟨⟩
    decide
  have hmark : ∀ c ∈ ('e' :: (integerText power ++ rest)).head?, isDecimalDigit c = false := by
    rintro c ⟨⟩
    decide
  obtain ⟨text, hpower⟩ := scanPower_integerText power hrest.not_isDecimalDigit
  rw [kindsOf_digits hwhole hwhole', scanNumber, takeWhile_append_of_head hwhole' hpoint,
    dropWhile_append_of_head hwhole' hpoint, scanFraction_digits hfraction hfraction' hmark]
  simp only [hpower]
  rw [lexeme_of_cut hrest.cut]
  rfl

end Digits

end Lexer

end MigrationScript
