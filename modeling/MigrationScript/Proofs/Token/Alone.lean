import MigrationScript.Proofs.Token.Cut

/-!
# Tokens by themselves

A scanner may look at what stands behind its token, so the text of a token is not simply scanned
again. But it is cut off in the same way where the text behind it is shorter, and in the end where
there is none.
-/

namespace MigrationScript

namespace Lexer

variable {text read short : List Char}

/-! ### Texts that are cut short -/

theorem head?_of_isPrefix {long : List Char} (h : short <+: long) {c : Char}
    (hc : short.head? = some c) : long.head? = some c := by
  obtain ⟨rest, rfl⟩ := h
  obtain ⟨more, rfl⟩ := List.head?_eq_some_iff.mp hc
  rfl

theorem append_isPrefix {rest : List Char} (htext : text = read ++ rest) (h : short <+: rest) :
    read ++ short <+: text := by
  rw [htext]
  exact (List.prefix_append_right_inj read).mpr h

theorem not_property_head_dropWhile {property : Char → Bool}
    (h : short <+: text.dropWhile property) :
    ∀ c ∈ short.head?, property c = false := by
  intro c hc
  have hhead := List.head?_dropWhile_not property text
  rwa [head?_of_isPrefix h hc] at hhead

theorem takeWhile_shortened {property : Char → Bool} (h : short <+: text.dropWhile property) :
    (text.takeWhile property ++ short).takeWhile property = text.takeWhile property :=
  takeWhile_append_of_head List.all_takeWhile (not_property_head_dropWhile h)

theorem dropWhile_shortened {property : Char → Bool} (h : short <+: text.dropWhile property) :
    (text.takeWhile property ++ short).dropWhile property = short :=
  dropWhile_append_of_head List.all_takeWhile (not_property_head_dropWhile h)

/-- The scanner cuts off the same token where the text behind the token is cut short. -/
def Settled (scanner : List Char → Lexeme) (text : List Char) : Prop :=
  ∃ read, text = read ++ (scanner text).rest ∧
    ∀ short, short <+: (scanner text).rest →
      scanner (read ++ short) = { scanner text with rest := short }

section Settled

variable {scanner inner : List Char → Lexeme} {rest : List Char}

theorem settled_rest (kind : TokenKind) (read rest : List Char) : Settled (⟨kind, read, ·⟩) rest :=
  ⟨[], rfl, fun _ _ => rfl⟩

/-- A scanner that reads a front and leaves the rest to another one. -/
theorem Settled.of_front (hinner : Settled inner rest) (front : List Char)
    (h : ∀ behind, behind <+: rest → scanner (front ++ behind) = inner behind) :
    Settled scanner (front ++ rest) := by
  obtain ⟨read, hrest, hread⟩ := hinner
  rw [Settled, h rest List.prefix_rfl]
  refine ⟨front ++ read, ?_, fun short hshort => ?_⟩
  · rw [List.append_assoc, ← hrest]
  · rw [List.append_assoc, h _ (append_isPrefix hrest hshort), hread short hshort]

/-- The first character of a token has been read. -/
theorem Settled.of_cons {c : Char} (h : Settled scanner (c :: rest))
    (hne : (scanner (c :: rest)).rest ≠ c :: rest) :
    Settled (fun rest => scanner (c :: rest)) rest := by
  obtain ⟨read, hrest, hread⟩ := h
  rcases read with - | ⟨first, read⟩
  · exact absurd hrest.symm hne
  · obtain ⟨rfl, htail⟩ := List.cons.inj hrest
    exact ⟨read, htail, hread⟩

theorem rest_ne_of_covers {lexeme : Lexeme} (hcovers : lexeme.Covers text)
    (hne : lexeme.text ≠ []) : lexeme.rest ≠ text := by
  intro heq
  rw [Lexeme.Covers, heq] at hcovers
  exact hne (List.append_left_eq_self.mp hcovers)

end Settled

/-! ### Strings -/

section Strings

variable {rest : List Char}

/-- The hexadecimal digits at the front, at most four. -/
def codeDigits (rest : List Char) : List Char :=
  (rest.take 4).takeWhile isHexDigit

theorem length_codeDigits_le (rest : List Char) : (codeDigits rest).length ≤ 4 :=
  (List.takeWhile_prefix isHexDigit).length_le.trans (List.length_take_le 4 rest)

theorem take_codeDigits (rest : List Char) :
    rest.take (codeDigits rest).length = codeDigits rest :=
  (List.prefix_iff_eq_take.mp
    ((List.takeWhile_prefix isHexDigit).trans (List.take_prefix 4 rest))).symm

theorem take_append_codeDigits (rest behind : List Char) :
    (codeDigits rest ++ behind).take 4 =
      codeDigits rest ++ behind.take (4 - (codeDigits rest).length) := by
  rw [List.take_append, List.take_of_length_le (length_codeDigits_le rest)]

theorem codeDigits_append (rest : List Char) :
    codeDigits rest ++ rest.drop (codeDigits rest).length = rest := by
  conv => lhs; lhs; rw [← take_codeDigits]
  exact List.take_append_drop _ rest

theorem codeDigits_shortened (h : short <+: rest.drop (codeDigits rest).length) :
    codeDigits (codeDigits rest ++ short) = codeDigits rest := by
  have hbehind : (rest.take 4).dropWhile isHexDigit =
      (rest.drop (codeDigits rest).length).take (4 - (codeDigits rest).length) := by
    refine List.append_cancel_left (?_ : codeDigits rest ++ _ = codeDigits rest ++ _)
    rw [← take_append_codeDigits, codeDigits_append]
    exact List.takeWhile_append_dropWhile
  have hshort := List.IsPrefix.take h (4 - (codeDigits rest).length)
  rw [← hbehind] at hshort
  rw [codeDigits, take_append_codeDigits]
  exact takeWhile_shortened hshort

theorem badCodePoint_eq (rest : List Char) :
    badCodePoint rest = ⟨.error .unicodeEscape, '\\' :: 'u' :: codeDigits rest,
      rest.drop (codeDigits rest).length⟩ := by
  have htake := take_codeDigits rest
  unfold codeDigits at htake ⊢
  rw [badCodePoint, htake]

/-- Text that denotes no character goes on doing so. -/
theorem scanString_codePoint (h : ∀ a b c d more, rest = a :: b :: c :: d :: more →
      (hexValue4? a b c d).bind scalar? = none) :
    scanString ('\\' :: 'u' :: rest) = badCodePoint rest := by
  rcases rest with - | ⟨a, - | ⟨b, - | ⟨c, - | ⟨d, more⟩⟩⟩⟩
  · rfl
  · rfl
  · rfl
  · rfl
  · rw [scanString, h a b c d more rfl]

theorem scanString_badCodePoint (hnone : ∀ a b c d more, rest = a :: b :: c :: d :: more →
      (hexValue4? a b c d).bind scalar? = none) (hshort : short <+: (badCodePoint rest).rest) :
    scanString ((badCodePoint rest).text ++ short) = { badCodePoint rest with rest := short } := by
  rw [badCodePoint_eq] at hshort ⊢
  have hprefix : codeDigits rest ++ short <+: rest :=
    append_isPrefix (codeDigits_append rest).symm hshort
  have hdigits := codeDigits_shortened hshort
  rw [List.cons_append, List.cons_append, scanString_codePoint, badCodePoint_eq, hdigits,
    List.drop_left]
  intro a b c d more heq
  obtain ⟨behind, hbehind⟩ := hprefix
  rw [heq] at hbehind
  exact hnone a b c d _ hbehind.symm

/-- A string, closed or not, stays the same where the text behind it is cut short. -/
theorem scanString_shortened (h : short <+: (scanString text).rest) :
    scanString ((scanString text).text ++ short) = { scanString text with rest := short } := by
  fun_induction scanString text with
  | case1 =>
    rw [List.prefix_nil.mp h]
    rfl
  | case2 rest => rfl
  | case3 rest => rfl
  | case4 =>
    rw [List.prefix_nil.mp h]
    rfl
  | case5 a b c d rest char hchar ih =>
    simp only [Body.cons, List.cons_append, List.nil_append]
    rw [scanString, hchar, ih h]
    rfl
  | case6 a b c d rest hchar =>
    refine scanString_badCodePoint (fun _ _ _ _ _ heq => ?_) h
    cases heq
    exact hchar
  | case7 rest hrest =>
    exact scanString_badCodePoint (fun _ _ _ _ _ heq => absurd heq (hrest _ _ _ _ _)) h
  | case8 c rest _ hcode char hchar ih =>
    simp only [Body.cons, List.cons_append, List.nil_append]
    rw [scanString, hchar]
    · dsimp only
      rw [ih h]
      rfl
    · exact fun _ _ _ _ _ heq _ => hcode heq
    · exact hcode
  | case9 c rest _ hcode hnone =>
    simp only [List.cons_append, List.nil_append]
    rw [scanString, hnone]
    · exact fun _ _ _ _ _ heq _ => hcode heq
    · exact hcode
  | case10 c rest hquote hnewline hlast _ _ hescape ih =>
    have hbackslash : c ≠ '\\' := by
      intro heq
      cases rest with
      | nil => exact hlast heq rfl
      | cons second rest => exact hescape second rest heq rfl
    simp only [Body.cons, List.cons_append, List.nil_append]
    rw [scanString_cons _ hquote hbackslash hnewline, ih h]
    rfl

theorem scanVerbatim_shortened (h : short <+: (scanVerbatim text).rest) :
    scanVerbatim ((scanVerbatim text).text ++ short) =
      { scanVerbatim text with rest := short } := by
  fun_induction scanVerbatim text with
  | case1 =>
    rw [List.prefix_nil.mp h]
    rfl
  | case2 rest ih =>
    simp only [Body.cons, List.cons_append, List.nil_append]
    rw [scanVerbatim, ih h]
    rfl
  | case3 rest hquote =>
    rw [List.singleton_append, scanVerbatim]
    rintro further rfl
    obtain ⟨more, rfl⟩ := h
    exact hquote _ rfl
  | case4 c rest hdouble hquote ih =>
    simp only [Body.cons, List.cons_append, List.nil_append]
    rw [scanVerbatim, ih h]
    · rfl
    · exact fun _ heq _ => hquote heq
    · exact hquote

end Strings

/-! ### Numbers -/

section Numbers

/-- The point and the digits behind it. -/
def fractionText (fraction : List Char) : List Char :=
  if fraction.isEmpty then [] else '.' :: fraction

theorem scanFraction_shortened (h : short <+: (scanFraction text).2) :
    scanFraction (fractionText (scanFraction text).1 ++ short) =
      ((scanFraction text).1, short) := by
  fun_cases scanFraction text with
  | case1 c rest hdigit =>
    rw [scanFraction, if_pos hdigit] at h
    have htake : (c :: rest).takeWhile isDecimalDigit ≠ [] := takeWhile_ne_nil hdigit
    rw [fractionText, List.isEmpty_eq_false_iff.mpr htake]
    exact scanFraction_digits htake List.all_takeWhile (not_property_head_dropWhile h)
  | case2 c rest hdigit =>
    rw [scanFraction, if_neg hdigit] at h
    change short <+: '.' :: c :: rest at h
    rcases short with - | ⟨first, short⟩
    · rfl
    obtain ⟨rfl, hrest⟩ := List.cons_prefix_cons.mp h
    rcases short with - | ⟨second, short⟩
    · rfl
    obtain ⟨rfl, -⟩ := List.cons_prefix_cons.mp hrest
    exact if_neg hdigit
  | case3 text hpoint =>
    rw [scanFraction] at h
    · refine scanFraction.eq_2 short fun c rest heq => ?_
      obtain ⟨more, rfl⟩ := h
      exact hpoint c (rest ++ more) (by rw [heq]; rfl)
    · exact hpoint

theorem scanSign_of_ne (hplus : text.head? ≠ some '+') (hminus : text.head? ≠ some '-') :
    scanSign text = ([], text) := by
  unfold scanSign
  split
  · exact absurd rfl hplus
  · exact absurd rfl hminus
  · rfl

theorem scanSign_shortened (h : short <+: (scanSign text).2) :
    scanSign ((scanSign text).1 ++ short) = ((scanSign text).1, short) := by
  fun_cases scanSign text with
  | case1 rest => rfl
  | case2 rest => rfl
  | case3 text hplus hminus =>
    rw [scanSign] at h
    · refine scanSign_of_ne (fun heq => ?_) fun heq => ?_
      · obtain ⟨rest, rfl⟩ := List.head?_eq_some_iff.mp (head?_of_isPrefix h heq)
        exact hplus rest rfl
      · obtain ⟨rest, rfl⟩ := List.head?_eq_some_iff.mp (head?_of_isPrefix h heq)
        exact hminus rest rfl
    · exact hplus
    · exact hminus

theorem scanPower_shortened_none (hpower : scanPower text = none) (h : short <+: text) :
    scanPower short = none := by
  cases short with
  | nil => rfl
  | cons c short =>
    obtain ⟨more, rfl⟩ := h
    rw [List.cons_append, scanPower] at hpower
    rw [scanPower]
    split at hpower
    · cases hpower
    · rename_i hmark
      exact if_neg hmark

theorem scanPower_shortened {power : Power} (hpower : scanPower text = some power)
    (h : short <+: power.rest) :
    scanPower (power.text ++ short) = some { power with rest := short } := by
  fun_cases scanPower text with
  | case1 => cases hpower
  | case2 c rest hmark sign behind hsign digits value =>
    rw [scanPower, if_pos hmark, hsign] at hpower
    obtain rfl := Option.some.inj hpower
    have hbehind : behind.takeWhile isDecimalDigit ++ short <+: behind :=
      append_isPrefix List.takeWhile_append_dropWhile.symm h
    have hagain : scanSign (sign ++ (behind.takeWhile isDecimalDigit ++ short)) =
        (sign, behind.takeWhile isDecimalDigit ++ short) := by
      have hshort : digits ++ short <+: (scanSign rest).2 := by rwa [hsign]
      have hagain := scanSign_shortened hshort
      rwa [hsign] at hagain
    simp only [List.cons_append, List.append_assoc]
    rw [scanPower, if_pos hmark, hagain]
    dsimp only
    rw [takeWhile_shortened h, dropWhile_shortened h]
    rfl
  | case3 c rest hmark =>
    rw [scanPower, if_neg hmark] at hpower
    cases hpower

section Numeral

variable (value : Decimal) (isDouble : Bool) (rest : List Char)

theorem settled_closed (text : List Char) (kind : TokenKind) :
    Settled (fun rest => Numeral.closed ⟨text, value, isDouble, rest⟩ kind) rest := by
  cases rest with
  | nil =>
    refine ⟨[], rfl, fun short h => ?_⟩
    rw [List.prefix_nil.mp h]
    rfl
  | cons c rest =>
    by_cases hpart : isIdentifierPart c = true
    · refine (settled_rest (.invalid .numberSuffix) (text ++ [c]) rest).of_front [c]
        fun behind _ => ?_
      simp only [Numeral.closed, List.singleton_append, hpart, if_true]
    · refine (settled_rest kind text (c :: rest)).of_front [] fun behind h => ?_
      rcases behind with - | ⟨first, behind⟩
      · rfl
      · obtain ⟨rfl, -⟩ := List.cons_prefix_cons.mp h
        simp [Numeral.closed, hpart]

theorem settled_lexeme (text : List Char) :
    Settled (fun rest => Numeral.lexeme ⟨text, value, isDouble, rest⟩) rest := by
  rcases rest with - | ⟨c, rest⟩
  · refine ⟨[], rfl, fun short h => ?_⟩
    rw [List.prefix_nil.mp h]
    rfl
  by_cases hlong : (!isDouble && (c == 'L' || c == 'l')) = true
  · refine (settled_rest (Numeral.long ⟨text, value, isDouble, []⟩) (text ++ [c]) rest).of_front
      [c] fun behind _ => ?_
    simp only [Numeral.lexeme, List.singleton_append, hlong, if_true]
    rfl
  by_cases hmark : (c == 'D' || c == 'd') = true
  · refine (settled_closed value isDouble rest (text ++ [c])
      (Numeral.double ⟨text, value, isDouble, []⟩)).of_front [c] fun behind _ => ?_
    simp only [Numeral.lexeme, List.singleton_append, hlong, hmark, if_true]
    rfl
  · refine (settled_closed value isDouble (c :: rest) text
      (if isDouble then Numeral.double ⟨text, value, isDouble, []⟩
        else Numeral.integer ⟨text, value, isDouble, []⟩)).of_front [] fun behind h => ?_
    rcases behind with - | ⟨first, behind⟩
    · rfl
    · obtain ⟨rfl, -⟩ := List.cons_prefix_cons.mp h
      simp only [Numeral.lexeme, List.nil_append, hlong, hmark]
      rfl

end Numeral

/-- The whole part and the fraction of a number. -/
def frontText (whole fraction : List Char) : List Char :=
  if fraction.isEmpty then whole else whole ++ '.' :: fraction

/-- The token of a number of which the whole part and the fraction have been read. -/
def scanBehind (whole fraction rest : List Char) : Lexeme :=
  let front := frontText whole fraction
  match scanPower rest with
  | none => Numeral.lexeme ⟨front, .ofDigits whole fraction 0, !fraction.isEmpty, rest⟩
  | some power =>
    match power.value with
    | none => ⟨.invalid .missingPower, front ++ power.text, power.rest⟩
    | some value =>
      Numeral.lexeme ⟨front ++ power.text, .ofDigits whole fraction value, true, power.rest⟩

theorem settled_scanBehind (whole fraction rest : List Char) :
    Settled (scanBehind whole fraction) rest := by
  cases hpower : scanPower rest with
  | none =>
    refine (settled_lexeme (.ofDigits whole fraction 0) (!fraction.isEmpty) rest
      (frontText whole fraction)).of_front [] fun behind h => ?_
    rw [List.nil_append, scanBehind, scanPower_shortened_none hpower h]
  | some power =>
    rw [← scanPower_append hpower]
    cases hvalue : power.value with
    | none =>
      refine (settled_rest (.invalid .missingPower) (frontText whole fraction ++ power.text)
        power.rest).of_front _ fun behind h => ?_
      rw [scanBehind, scanPower_shortened hpower h]
      simp only [hvalue]
    | some value =>
      refine (settled_lexeme (.ofDigits whole fraction value) true power.rest
        (frontText whole fraction ++ power.text)).of_front _ fun behind h => ?_
      rw [scanBehind, scanPower_shortened hpower h]
      simp only [hvalue]

theorem scanNumber_eq (text : List Char) :
    scanNumber text = scanBehind (text.takeWhile isDecimalDigit)
      (scanFraction (text.dropWhile isDecimalDigit)).1
      (scanFraction (text.dropWhile isDecimalDigit)).2 :=
  rfl

theorem settled_scanNumber (text : List Char) : Settled scanNumber text := by
  have hfraction : text.dropWhile isDecimalDigit =
      fractionText (scanFraction (text.dropWhile isDecimalDigit)).1 ++
        (scanFraction (text.dropWhile isDecimalDigit)).2 := (scanFraction_append _).symm
  have hwhole : text.takeWhile isDecimalDigit ++
      fractionText (scanFraction (text.dropWhile isDecimalDigit)).1 ++
        (scanFraction (text.dropWhile isDecimalDigit)).2 = text := by
    rw [List.append_assoc, ← hfraction, List.takeWhile_append_dropWhile]
  rw [← hwhole]
  refine (settled_scanBehind (text.takeWhile isDecimalDigit)
    (scanFraction (text.dropWhile isDecimalDigit)).1 _).of_front _ fun behind h => ?_
  have hbehind : fractionText (scanFraction (text.dropWhile isDecimalDigit)).1 ++ behind <+:
      text.dropWhile isDecimalDigit := append_isPrefix hfraction h
  have hscan := scanNumber_eq (text.takeWhile isDecimalDigit ++
    (fractionText (scanFraction (text.dropWhile isDecimalDigit)).1 ++ behind))
  rw [takeWhile_shortened hbehind, dropWhile_shortened hbehind, scanFraction_shortened h] at hscan
  rw [List.append_assoc]
  exact hscan

end Numbers

/-! ### Words and marks -/

theorem settled_scanWord (mark text : List Char) : Settled (scanWord mark) text := by
  rw [← List.takeWhile_append_dropWhile (p := isIdentifierPart) (l := text)]
  refine (settled_rest (scanWord mark text).kind (scanWord mark text).text _).of_front _
    fun behind h => ?_
  simp only [scanWord, takeWhile_shortened h, dropWhile_shortened h]

theorem settled_scanMark (c : Char) (rest : List Char) : Settled (scanMark c) rest := by
  fun_cases scanMark c rest with
  | case1 rest =>
    exact (settled_rest (.punctuation .arrow) ['=', '>'] rest).of_front ['>'] fun behind _ => rfl
  | case2 _ _ harrow mark hmark =>
    refine (settled_rest (.punctuation mark) [c] rest).of_front [] fun behind h => ?_
    rw [List.nil_append, scanMark, hmark]
    rintro more rfl rfl
    obtain ⟨further, rfl⟩ := h
    exact harrow _ rfl rfl
  | case3 _ _ harrow hnone =>
    refine (settled_rest (.invalid (.unexpected c)) [c] rest).of_front [] fun behind h => ?_
    rw [List.nil_append, scanMark, hnone]
    rintro more rfl rfl
    obtain ⟨further, rfl⟩ := h
    exact harrow _ rfl rfl

/-! ### Tokens -/

theorem settled_scanString (rest : List Char) :
    Settled (fun rest => (scanString rest).lexeme ['"']) rest := by
  refine ⟨(scanString rest).text, (scanString_append rest).symm, fun short h => ?_⟩
  dsimp only
  rw [scanString_shortened h]
  rfl

theorem settled_scanVerbatim (rest : List Char) :
    Settled (fun rest => (scanVerbatim rest).lexeme ['@', '"']) rest := by
  refine ⟨(scanVerbatim rest).text, (scanVerbatim_append rest).symm, fun short h => ?_⟩
  dsimp only
  rw [scanVerbatim_shortened h]
  rfl

theorem settled_word {c : Char} (mark rest : List Char) (hstart : isIdentifierStart c = true) :
    Settled (fun rest => scanWord mark (c :: rest)) rest := by
  have hword : (scanWord [] (c :: rest)).text ≠ [] :=
    takeWhile_ne_nil (isIdentifierPart_of_start hstart)
  have hrest : (scanWord [] (c :: rest)).rest ≠ c :: rest :=
    rest_ne_of_covers (covers_scanWord [] (c :: rest)) hword
  exact (settled_scanWord mark (c :: rest)).of_cons hrest

theorem settled_number {c : Char} (rest : List Char) (hdigit : isDecimalDigit c = true) :
    Settled (fun rest => scanNumber (c :: rest)) rest :=
  (settled_scanNumber (c :: rest)).of_cons
    (rest_ne_of_covers (covers_scanNumber (c :: rest)) (scanNumber_text_ne_nil hdigit))

theorem settled_scanAt (rest : List Char) : Settled scanAt rest := by
  rcases rest with - | ⟨c, rest⟩
  · refine ⟨[], rfl, fun short h => ?_⟩
    rw [List.prefix_nil.mp h]
    rfl
  by_cases hquote : c = '"'
  · subst hquote
    exact (settled_scanVerbatim rest).of_front ['"'] fun behind _ => rfl
  have hscan (rest : List Char) : scanAt (c :: rest) =
      if isIdentifierStart c then scanWord ['@'] (c :: rest)
      else ⟨.invalid .loneAt, ['@'], c :: rest⟩ := by
    rw [scanAt]
    exact hquote
  by_cases hstart : isIdentifierStart c = true
  · refine (settled_word ['@'] rest hstart).of_front [c] fun behind _ => ?_
    rw [List.singleton_append, hscan, if_pos hstart]
  · refine (settled_rest (.invalid .loneAt) ['@'] (c :: rest)).of_front [] fun behind h => ?_
    rcases behind with - | ⟨first, behind⟩
    · rfl
    · obtain ⟨rfl, -⟩ := List.cons_prefix_cons.mp h
      rw [List.nil_append, hscan, if_neg hstart]

/-- A token is the same where the text behind it is cut short. -/
theorem settled_scan (c : Char) (rest : List Char) : Settled (scan c) rest := by
  by_cases hquote : c = '"'
  · subst hquote
    exact settled_scanString rest
  by_cases hat : c = '@'
  · subst hat
    exact settled_scanAt rest
  unfold scan
  simp only [hquote, hat, if_false]
  split_ifs with hdigit hstart
  · exact settled_number rest hdigit
  · exact settled_word [] rest hstart
  · exact settled_scanMark c rest

/-- In front of a token there is no gap, whatever stands behind it. -/
theorem skipGap_shortened {c : Char} {rest : List Char} (h : short <+: rest)
    (htoken : skipGap .blank (c :: rest) = ([], c :: rest)) :
    skipGap .blank (c :: short) = ([], c :: short) := by
  by_cases hslash : c = '/'
  · subst hslash
    rcases short with - | ⟨first, short⟩
    · rfl
    obtain ⟨more, rfl⟩ := h
    rw [skipGap]
    · rfl
    · rintro further - heq
      obtain ⟨rfl, -⟩ := List.cons.inj heq
      cases htoken
    · rintro further - heq
      obtain ⟨rfl, -⟩ := List.cons.inj heq
      cases htoken
  · rw [skipGap_of_ne hslash] at htoken ⊢
    split at htoken
    · cases htoken
    · rename_i hblank
      exact if_neg hblank

/-- Where a token starts, it is cut off without a gap in front. -/
theorem exists_scan {offset : Nat} {front behind : List Token} {token : Token}
    (h : tokensFrom offset text = front ++ token :: behind) :
    ∃ skipped c rest, text = skipped ++ c :: rest ∧ offset + width skipped = token.span.start ∧
      skipGap .blank (c :: rest) = ([], c :: rest) ∧
      token = ⟨(scan c rest).kind,
        ⟨token.span.start, token.span.start + width (scan c rest).text⟩⟩ := by
  obtain ⟨skipped, rest, rfl, hstart, htokens⟩ := exists_drop h
  have hrest := skipGap_append .blank rest
  rcases hgap : skipGap .blank rest with ⟨gap, - | ⟨c, behind⟩⟩
  · rw [tokensFrom_of_gap _ hgap] at htokens
    cases htokens
  · rw [tokensFrom_of_token _ hgap] at htokens
    obtain ⟨htoken, -⟩ := List.cons.inj htokens
    have hwidth : token.span.start + width gap = token.span.start :=
      congrArg (·.span.start) htoken
    have hnil : gap = [] := by
      by_contra hne
      have := width_pos hne
      omega
    subst hnil
    rw [hgap, List.nil_append] at hrest
    subst hrest
    exact ⟨skipped, c, behind, rfl, hstart, hgap, htoken.symm⟩

/-- The gap in front of a token is the same where the text behind the token is cut short. -/
theorem skipGap_gap_shortened {gap rest : List Char} {c : Char}
    (h : skipGap .blank text = (gap, c :: rest)) (hshort : short <+: rest) :
    skipGap .blank (gap ++ c :: short) = (gap, c :: short) := by
  obtain ⟨hskipped, htoken⟩ := skipGap_token h
  rw [skipGap_skipped (c :: short) hskipped fun hline => congrArg some (hline c rfl),
    skipGap_shortened hshort htoken, List.append_nil]

theorem tokensFrom_gap {gap rest : List Char} {c : Char} (offset : Nat)
    (h : skipGap .blank text = (gap, c :: rest)) : tokensFrom offset gap = [] := by
  obtain ⟨hskipped, htoken⟩ := skipGap_token h
  have hline : c ≠ '\n' := by
    rintro rfl
    cases htoken
  have hgap := skipGap_skipped [] hskipped fun hhead => absurd (hhead c rfl) hline
  rw [List.append_nil] at hgap
  exact tokensFrom_of_gap offset hgap

theorem eq_of_width_eq {front front' rest rest' : List Char} (h : front ++ rest = front' ++ rest')
    (hwidth : width front = width front') : front = front' ∧ rest = rest' := by
  have hcut := splitAtWidth_width_append front rest
  rw [h, hwidth, splitAtWidth_width_append] at hcut
  obtain ⟨hfront, hrest⟩ := Prod.mk.inj (Option.some.inj hcut)
  exact ⟨hfront.symm, hrest.symm⟩

/-- What is at least as wide as the front of a text starts with it. -/
theorem exists_append_of_width_le {front front' rest rest' : List Char}
    (h : front ++ rest = front' ++ rest') (hwidth : width front ≤ width front') :
    ∃ more, front' = front ++ more ∧ rest = more ++ rest' := by
  obtain ⟨more, hfront, hrest⟩ | ⟨more, hfront, hrest⟩ := List.append_eq_append_iff.mp h
  · exact ⟨more, hfront, hrest⟩
  · rw [hfront, width_append] at hwidth
    have hnil : more = [] := by
      by_contra hne
      have := width_pos hne
      omega
    subst hnil
    exact ⟨[], by rw [hfront, List.append_nil, List.append_nil], hrest.symm⟩

/-- The first token of a text is the same where the text behind it is cut short. -/
theorem tokensFrom_shortened {gap rest : List Char} {c : Char} (offset : Nat)
    (h : skipGap .blank text = (gap, c :: rest)) (hshort : short <+: (scan c rest).rest) :
    tokensFrom offset (gap ++ (scan c rest).text ++ short) =
      ⟨(scan c rest).kind, ⟨offset + width gap, offset + width gap + width (scan c rest).text⟩⟩ ::
        tokensFrom (offset + width gap + width (scan c rest).text) short := by
  obtain ⟨read, hrest, htext⟩ := exists_read c rest
  obtain ⟨read', hrest', hsettled⟩ := settled_scan c rest
  obtain rfl : read = read' := List.append_cancel_right (hrest.symm.trans hrest')
  have hgap := skipGap_gap_shortened h (append_isPrefix hrest hshort)
  rw [htext, List.append_assoc, List.cons_append, tokensFrom_of_token offset hgap,
    hsettled short hshort, htext]

/-- Where a token starts, the text may be cut: the tokens are those of its two parts. -/
theorem tokensFrom_of_starts {offset : Nat} {front rest : List Char} {token : Token}
    (hmem : token ∈ tokensFrom offset (front ++ rest))
    (hstart : token.span.start = offset + width front) :
    tokensFrom offset (front ++ rest) =
      tokensFrom offset front ++ tokensFrom (offset + width front) rest := by
  generalize htext : front ++ rest = text at hmem ⊢
  fun_induction tokensFrom offset text generalizing front with
  | case1 => cases hmem
  | case2 offset text gap c behind hgap lexeme start stop =>
    rename_i ih
    have hcovers := append_of_skipGap hgap
    rcases List.mem_cons.mp hmem with rfl | hmem
    · -- The token is the first: all that stands in front of it is the gap.
      have hwidth : width front = width gap := (Nat.add_left_cancel hstart).symm
      have happend := skipGap_append .blank text
      rw [hgap] at happend
      obtain ⟨rfl, rfl⟩ := eq_of_width_eq (htext.trans happend.symm) hwidth
      rw [tokensFrom_gap offset hgap, List.nil_append,
        tokensFrom_of_token (offset + width front) (skipGap_token hgap).2]
      rfl
    · -- The token stands behind the first one, which is then part of the front.
      have hle : stop ≤ token.span.start := (tiles_tokensFrom stop lexeme.rest).offset_le token hmem
      have hwidth : width (gap ++ lexeme.text) ≤ width front := by
        rw [width_append]
        omega
      obtain ⟨more, rfl, hmore⟩ := exists_append_of_width_le (hcovers.trans htext.symm) hwidth
      have hfront : offset + width (gap ++ lexeme.text ++ more) = stop + width more := by
        rw [width_append, width_append]
        omega
      rw [hfront] at hstart ⊢
      rw [tokensFrom_shortened offset hgap ⟨rest, hmore.symm⟩, List.cons_append,
        ih hstart hmore.symm hmem]

/-- The text of a token has this token and no other. -/
theorem tokensFrom_scan_text {c : Char} {rest : List Char}
    (htoken : skipGap .blank (c :: rest) = ([], c :: rest)) (offset : Nat) :
    tokensFrom offset (scan c rest).text =
      [⟨(scan c rest).kind, ⟨offset, offset + width (scan c rest).text⟩⟩] := by
  have hfirst := tokensFrom_shortened offset htoken List.nil_prefix
  rwa [List.nil_append, List.append_nil, tokensFrom_nil] at hfirst

/-- Behind the tokens of the text stands the end and nothing else. -/
theorem mem_tokensFrom_of_mem_tokenize {source : String} {token : Token}
    (hmem : token ∈ tokenize source) (hkind : token.kind ≠ .endOfInput) :
    token ∈ tokensFrom 0 source.toList := by
  refine (List.mem_append.mp hmem).resolve_right fun hfinish => hkind ?_
  rw [List.mem_singleton.mp hfinish]
  rfl

end Lexer

open Lexer

/-- Every token but the end, errors with their reasons included, is told by its own text: the text
that it takes has the same token, from its first byte to its last, and behind it the end. -/
theorem tokens_stand_alone (source : String) (token : Token) (hmem : token ∈ tokenize source)
    (hkind : token.kind ≠ .endOfInput) :
    tokenize (token.span.slice source) =
      [⟨token.kind, ⟨0, width (token.span.slice source).toList⟩⟩,
        ⟨.endOfInput, ⟨width (token.span.slice source).toList,
          width (token.span.slice source).toList⟩⟩] := by
  have htokens := mem_tokensFrom_of_mem_tokenize hmem hkind
  obtain ⟨front, behind, hsplit⟩ := List.append_of_mem htokens
  obtain ⟨skipped, c, rest, htext, hstart, hgap, htoken⟩ := exists_scan hsplit
  have hslice : token.span.slice? source.toList = some (scan c rest).text := by
    refine Span.slice?_eq_some_iff.mpr ⟨skipped, (scan c rest).rest, ?_, ?_, ?_⟩
    · rw [List.append_assoc, scan_append, htext]
    · rw [← hstart, Nat.zero_add]
    · rw [htoken]
  have htext : (token.span.slice source).toList = (scan c rest).text := by
    rw [Span.slice, hslice, String.toList_ofList]
    rfl
  rw [tokenize, Tokenized.finish, Tokenized.ofSource, htext, tokensFrom_scan_text hgap 0,
    Nat.zero_add, htoken]
  rfl

theorem tokens_stand_alone_unknownEscape :
    (⟨.invalid (.unknownEscape 'q'), ⟨2, 6⟩⟩ : Token) ∈ tokenize "x \"a\\qb\" 1e+" ∧
      tokenize "\"a\\q" =
        [⟨.invalid (.unknownEscape 'q'), ⟨0, 4⟩⟩, ⟨.endOfInput, ⟨4, 4⟩⟩] := by
  have hmem : (⟨.invalid (.unknownEscape 'q'), ⟨2, 6⟩⟩ : Token) ∈ tokenize "x \"a\\qb\" 1e+" := by
    decide +kernel
  have hslice : (⟨2, 6⟩ : Span).slice "x \"a\\qb\" 1e+" = "\"a\\q" := by decide +kernel
  have halone := tokens_stand_alone _ _ hmem (by decide)
  rw [hslice] at halone
  exact ⟨hmem, halone⟩

end MigrationScript
