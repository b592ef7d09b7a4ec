import MigrationScript.Json.Standard
import MigrationScript.Proofs.Token.Double

namespace MigrationScript

namespace Json

open Lexer

/-- What stands behind a value: nothing, space, or what separates or ends values. -/
def Closed (rest : List Char) : Prop :=
  ∀ c ∈ rest.head?, isSpace c = true ∨ c ∈ [',', ']', '\x7d']

theorem readNumber?_eq (check : Check) (negative : Bool) (text : List Char) :
    readNumber? check negative text =
      (readWhole? text).bind fun first => (readFraction? first.2).bind fun second =>
        (readPower? second.2).bind fun third =>
          (number check negative first.1 second.1 (third.1.getD 0)
            (second.1.isEmpty && third.1.isNone)).map (·, third.2) := by
  have hmap (value : Option Json) (rest : List Char) :
      (do let value ← value; return (value, rest)) = value.map (·, rest) := by
    cases value <;> rfl
  unfold readNumber?
  simp only [hmap]
  rfl

/-! ### The parts of a number -/

section Read

variable {whole fraction sign digits rest text : List Char} {power : Option Int} {mark : Char}

theorem Closed.ne_of_mem_head? (h : Closed rest) :
    ∀ c ∈ rest.head?, isDecimalDigit c = false ∧ c ≠ '.' ∧ c ≠ 'e' ∧ c ≠ 'E' := by
  intro c hc
  have hmark : c ∈ [' ', '\t', '\n', '\r', ',', ']', '\x7d'] := by
    simpa [isSpace, or_assoc] using h c hc
  simp only [List.mem_cons, List.not_mem_nil, or_false] at hmark
  obtain rfl | rfl | rfl | rfl | rfl | rfl | rfl := hmark <;> decide

theorem closed_cons {c : Char} (h : c ∈ [',', ']', '\x7d']) : Closed (c :: rest) := by
  rintro c ⟨rfl⟩
  exact .inr h

theorem closed_append {space : List Char} (hspace : space.all isSpace = true) (h : Closed rest) :
    Closed (space ++ rest) := by
  cases space with
  | nil => exact h
  | cons c space =>
    rintro c ⟨rfl⟩
    rw [List.all_cons, Bool.and_eq_true] at hspace
    exact .inl hspace.1

theorem Whole.exists_cons (h : Whole digits) :
    ∃ c text, digits = c :: text ∧ isDecimalDigit c = true := by
  have hne := h.ne_nil
  have hall := h.all_digits
  cases digits with
  | nil => exact absurd rfl hne
  | cons c text =>
    rw [List.all_cons, Bool.and_eq_true] at hall
    exact ⟨c, text, rfl, hall.1⟩

theorem readDigits?_append (hne : digits ≠ []) (hdigits : digits.all isDecimalDigit = true)
    (hrest : ∀ c ∈ rest.head?, isDecimalDigit c = false) :
    readDigits? (digits ++ rest) = some (digits, rest) := by
  have htake := takeWhile_append_of_head hdigits hrest
  have hdrop := dropWhile_append_of_head hdigits hrest
  rw [readDigits?, htake, hdrop]
  exact if_neg (by rwa [List.isEmpty_iff])

theorem readWhole?_of_head?_ne (h : text.head? ≠ some '0') :
    readWhole? text = readDigits? text := by
  unfold readWhole?
  split
  · exact absurd rfl h
  · rfl

theorem readWhole?_append (h : Whole whole)
    (hrest : ∀ c ∈ rest.head?, isDecimalDigit c = false) :
    readWhole? (whole ++ rest) = some (whole, rest) := by
  obtain rfl | hhead := h.leading
  · rfl
  · rw [readWhole?_of_head?_ne, readDigits?_append h.ne_nil h.all_digits hrest]
    rwa [List.head?_append_of_ne_nil _ h.ne_nil]

theorem readFraction?_append (h : fraction.all isDecimalDigit = true)
    (hrest : ∀ c ∈ rest.head?, isDecimalDigit c = false ∧ c ≠ '.') :
    readFraction? (fractionText fraction ++ rest) = some (fraction, rest) := by
  cases fraction with
  | nil =>
    change readFraction? rest = _
    unfold readFraction?
    split
    · exact absurd rfl (hrest '.' rfl).2
    · rfl
  | cons digit digits =>
    exact readDigits?_append (List.cons_ne_nil digit digits) h fun c hc => (hrest c hc).1

/-- The text is read as the power in front of whatever may stand behind it. -/
structure ReadsPower (text : List Char) (power : Option Int) : Prop where
  read : ∀ rest, Closed rest → readPower? (text ++ rest) = some (power, rest)
  head : ∀ rest, Closed rest → ∀ c ∈ (text ++ rest).head?, isDecimalDigit c = false ∧ c ≠ '.'

theorem readsPower_nil : ReadsPower [] none where
  read rest hrest := by
    cases rest with
    | nil => rfl
    | cons c rest =>
      obtain ⟨-, -, hsmall, hlarge⟩ := hrest.ne_of_mem_head? c rfl
      exact if_neg fun heq => heq.elim hsmall hlarge
  head rest hrest c hc := ⟨(hrest.ne_of_mem_head? c hc).1, (hrest.ne_of_mem_head? c hc).2.1⟩

theorem readSign_append (hsign : sign ∈ [[], ['+'], ['-']]) (hne : digits ≠ [])
    (hdigits : digits.all isDecimalDigit = true) :
    readSign (sign ++ (digits ++ rest)) = (sign == ['-'], digits ++ rest) := by
  simp only [List.mem_cons, List.not_mem_nil, or_false] at hsign
  obtain rfl | rfl | rfl := hsign
  · obtain _ | ⟨digit, digits⟩ := digits
    · exact absurd rfl hne
    · rw [List.all_cons, Bool.and_eq_true] at hdigits
      have hminus : digit ≠ '-' := ne_of_class hdigits.1 (by decide)
      have hplus : digit ≠ '+' := ne_of_class hdigits.1 (by decide)
      unfold readSign
      split
      · rename_i heq
        exact absurd (List.cons.inj heq).1 hminus
      · rename_i heq
        exact absurd (List.cons.inj heq).1 hplus
      · rfl
  · rfl
  · rfl

theorem readsPower_cons (hmark : mark ∈ ['e', 'E']) (hsign : sign ∈ [[], ['+'], ['-']])
    (hne : digits ≠ []) (hdigits : digits.all isDecimalDigit = true) :
    ReadsPower (mark :: (sign ++ digits))
      (some (if sign == ['-'] then -(Nat.ofDigitChars 10 digits 0 : Int)
        else (Nat.ofDigitChars 10 digits 0 : Int))) where
  read rest hrest := by
    have hread := readDigits?_append hne hdigits fun c hc => (hrest.ne_of_mem_head? c hc).1
    rw [List.cons_append, List.append_assoc]
    rw [readPower?, if_pos (by simpa using hmark), readSign_append hsign hne hdigits]
    simp only [hread]
    rfl
  head rest hrest := by
    rintro c ⟨rfl⟩
    simp only [List.mem_cons, List.not_mem_nil, or_false] at hmark
    obtain rfl | rfl := hmark <;> decide

theorem IsPower.exists_readsPower (h : IsPower text) : ∃ power, ReadsPower text (some power) := by
  obtain ⟨hmark, hsign, hne, hdigits⟩ := h
  exact ⟨_, readsPower_cons hmark hsign hne hdigits⟩

theorem head?_fractionText (hpower : ReadsPower text power) (hrest : Closed rest) :
    ∀ c ∈ (fractionText fraction ++ (text ++ rest)).head?, isDecimalDigit c = false := by
  cases fraction with
  | nil => exact fun c hc => (hpower.head rest hrest c hc).1
  | cons digit digits =>
    rintro c ⟨rfl⟩
    decide

/-- The parts of a number are found where they stand. -/
theorem readNumber?_append (check : Check) (negative : Bool) (hwhole : Whole whole)
    (hfraction : fraction.all isDecimalDigit = true) (hpower : ReadsPower text power)
    (hrest : Closed rest) :
    readNumber? check negative (whole ++ (fractionText fraction ++ (text ++ rest))) =
      (number check negative whole fraction (power.getD 0)
        (fraction.isEmpty && power.isNone)).map (·, rest) := by
  rw [readNumber?_eq, readWhole?_append hwhole (head?_fractionText hpower hrest), Option.bind_some,
    readFraction?_append hfraction (hpower.head rest hrest), Option.bind_some,
    hpower.read rest hrest, Option.bind_some]

/-- A text starts with a digit. -/
def StartsWithDigit (text : List Char) : Prop :=
  ∃ c rest, text = c :: rest ∧ isDecimalDigit c = true

theorem Whole.startsWithDigit (h : Whole whole) (rest : List Char) :
    StartsWithDigit (whole ++ rest) := by
  obtain ⟨c, text, rfl, hdigit⟩ := h.exists_cons
  exact ⟨c, text ++ rest, rfl, hdigit⟩

theorem readSigned?_append (check : Check) (hsign : sign ∈ [[], ['-']]) (h : StartsWithDigit text) :
    readSigned? check (sign ++ text) = readNumber? check (sign == ['-']) text := by
  simp only [List.mem_cons, List.not_mem_nil, or_false] at hsign
  obtain rfl | rfl := hsign
  · obtain ⟨c, text, rfl, hdigit⟩ := h
    have hminus : c ≠ '-' := ne_of_class hdigit (by decide)
    unfold readSigned?
    split
    · rename_i heq
      exact absurd (List.cons.inj heq).1 hminus
    · rfl
  · rfl

/-- What is read of a number does not depend on what stands behind it. -/
theorem IsReal.exists_readSigned? (h : IsReal text) :
    ∃ value : Option Json, ∀ rest, Closed rest →
      readSigned? .full (text ++ rest) = value.map (·, rest) := by
  obtain @⟨sign, whole, fraction, text, hsign, hwhole, hfraction, hpower, -⟩ := h
  obtain ⟨power, hreads⟩ : ∃ power, ReadsPower text power := by
    obtain rfl | hpower := hpower
    · exact ⟨none, readsPower_nil⟩
    · obtain ⟨power, hreads⟩ := hpower.exists_readsPower
      exact ⟨some power, hreads⟩
  refine ⟨number .full (sign == ['-']) whole fraction (power.getD 0)
    (fraction.isEmpty && power.isNone), fun rest hrest => ?_⟩
  rw [List.append_assoc, List.append_assoc, List.append_assoc,
    readSigned?_append .full hsign (hwhole.startsWithDigit _)]
  exact readNumber?_append .full (sign == ['-']) hwhole hfraction hreads hrest

/-- A number is read as the double that its text alone stands for. -/
theorem IsReal.readSigned?_eq_some (h : IsReal text) {value : Double}
    (hvalue : TextFormat.standard.number text = some value) (hrest : Closed rest) :
    readSigned? .full (text ++ rest) = some (.real value, rest) := by
  obtain ⟨result, hread⟩ := h.exists_readSigned?
  have halone := hread [] (by simp [Closed])
  rw [List.append_nil] at halone
  rw [TextFormat.standard] at hvalue
  simp only [halone] at hvalue
  cases result with
  | none => cases hvalue
  | some json =>
    rw [hread rest hrest]
    cases json with
    | real number =>
      obtain rfl := Option.some.inj hvalue
      rfl
    | _ => cases hvalue

end Read

/-! ### Integers -/

theorem head?_toDigits {value : Nat} (h : 0 < value) :
    (Nat.toDigits 10 value).head? ≠ some '0' := by
  induction value using Nat.strongRecOn with
  | ind value ih =>
    by_cases hsmall : value < 10
    · rw [Nat.toDigits_of_lt_base hsmall]
      have hdigit : ∀ value < 10, 0 < value → some value.digitChar ≠ some '0' := by decide
      exact hdigit value hsmall h
    · have hpos : 0 < value / 10 := by omega
      rw [Nat.toDigits_of_base_le (by decide) (Nat.le_of_not_lt hsmall),
        List.head?_append_of_ne_nil _ Nat.toDigits_ne_nil]
      exact ih (value / 10) (by omega) hpos

theorem whole_toDigits (value : Nat) : Whole (Nat.toDigits 10 value) where
  ne_nil := Nat.toDigits_ne_nil
  all_digits := all_isDecimalDigit_toDigits value
  leading := by
    obtain rfl | hpos := Nat.eq_zero_or_pos value
    · exact .inl rfl
    · exact .inr (head?_toDigits hpos)

/-- The digits of an integer, behind its sign if it has one, are read as the integer. -/
theorem readNumber?_toDigits (check : Check) {value : Int} {rest : List Char}
    (hrange : InRange value) (hrest : Closed rest) :
    readNumber? check (decide (value < 0)) (Nat.toDigits 10 value.natAbs ++ rest) =
      some (.integer value, rest) := by
  obtain ⟨hlow, hhigh⟩ := hrange
  have hparts := @readNumber?_append _ [] rest _ none check (decide (value < 0))
    (whole_toDigits value.natAbs) rfl readsPower_nil hrest
  have hnumber : number check (decide (value < 0)) (Nat.toDigits 10 value.natAbs) [] 0 true =
      some (.integer value) := by
    unfold number
    simp only [Nat.ofDigitChars_ten_toDigits]
    by_cases hnegative : value < 0
    · have hvalue : -(value.natAbs : Int) = value := by omega
      have hpos : 0 < (value.natAbs : Int) := by omega
      have hint : (int64? value).isSome = true := by
        rw [int64?, if_pos (by omega)]
        rfl
      simp only [hnegative, hvalue, hint, hpos, decide_true, Bool.not_true, Bool.and_false,
        Bool.false_and, Bool.and_true, Bool.false_eq_true, if_false, if_true]
    · have hvalue : (value.natAbs : Int) = value := by omega
      have huint : (uint64? value).isSome = true := by
        rw [uint64?, if_pos (by omega)]
        rfl
      simp only [hnegative, hvalue, huint, decide_false, Bool.not_false, Bool.and_true, if_true]
  exact hparts.trans (congrArg (Option.map (·, rest)) hnumber)

/-! ### Doubles -/

/-- A power of ten with its sign, if there is one. -/
def powerText : Option Int → List Char
  | none => []
  | some power => 'e' :: ((if 0 ≤ power then ['+'] else []) ++ integerText power)

theorem powerText_some (power : Int) :
    powerText (some power) =
      'e' :: ((if power < 0 then ['-'] else ['+']) ++ Nat.toDigits 10 power.natAbs) := by
  unfold powerText integerText
  dsimp only
  by_cases hnegative : power < 0
  · rw [if_neg (Int.not_le.mpr hnegative), if_pos hnegative, if_pos hnegative]
    rfl
  · rw [if_pos (Int.not_lt.mp hnegative), if_neg hnegative, if_neg hnegative]

theorem sign_mem_signs (power : Int) :
    (if power < 0 then ['-'] else ['+']) ∈ [[], ['+'], ['-']] := by
  split <;> decide

theorem isPower_powerText (power : Int) : IsPower (powerText (some power)) := by
  rw [powerText_some]
  exact .intro (by decide) (sign_mem_signs power) Nat.toDigits_ne_nil
    (all_isDecimalDigit_toDigits power.natAbs)

theorem readsPower_powerText (power : Option Int) : ReadsPower (powerText power) power := by
  cases power with
  | none => exact readsPower_nil
  | some power =>
    have hreads := @readsPower_cons _ _ 'e' (by decide) (sign_mem_signs power)
      Nat.toDigits_ne_nil (all_isDecimalDigit_toDigits power.natAbs)
    have hvalue : (if (if power < 0 then ['-'] else ['+']) == ['-'] then -(power.natAbs : Int)
        else (power.natAbs : Int)) = power := by
      by_cases hnegative : power < 0
      · rw [if_pos hnegative, if_pos (by decide)]
        omega
      · rw [if_neg hnegative, if_neg (by decide)]
        omega
    rw [Nat.ofDigitChars_ten_toDigits, hvalue] at hreads
    rwa [powerText_some]

/-- The text of a number that is no integer by its form and lies nearest to a magnitude. -/
inductive Numeral (magnitude : Nat) : List Char → Prop
  | intro {whole fraction : List Char} {power : Option Int} (hwhole : Whole whole)
      (hfraction : fraction.all isDecimalDigit = true)
      (hform : (fraction.isEmpty && power.isNone) = false)
      (hnearest : Double.nearest (.ofDigits whole fraction (power.getD 0)) = magnitude) :
      Numeral magnitude (whole ++ (fractionText fraction ++ powerText power))

theorem Numeral.startsWithDigit {magnitude : Nat} {text : List Char} (h : Numeral magnitude text) :
    StartsWithDigit text := by
  obtain ⟨hwhole, -, -, -⟩ := h
  exact hwhole.startsWithDigit _

theorem Numeral.isReal {magnitude : Nat} {text : List Char} (h : Numeral magnitude text)
    (negative : Bool) : IsReal ((if negative then ['-'] else []) ++ text) := by
  obtain @⟨whole, fraction, power, hwhole, hfraction, hform, -⟩ := h
  refine .intro (by cases negative <;> decide) hwhole hfraction ?_ ?_
  · cases power with
    | none => exact .inl rfl
    | some power => exact .inr (isPower_powerText power)
  · cases power with
    | none => exact .inl (by simpa using hform)
    | some power => exact .inr (List.cons_ne_nil _ _)

theorem readNumber?_of_numeral {magnitude : Nat} {text rest : List Char} (check : Check)
    (negative : Bool) (h : Numeral magnitude text) (hfinite : magnitude < Double.infiniteMagnitude)
    (hrest : Closed rest) :
    readNumber? check negative (text ++ rest) =
      some (.real (.ofMagnitude negative magnitude), rest) := by
  obtain ⟨hwhole, hfraction, hform, rfl⟩ := h
  rename_i whole fraction power
  have hmagnitude := Double.magnitude_ofMagnitude negative
    (Nat.lt_trans hfinite (by decide : Double.infiniteMagnitude < Double.signBit))
  have hinfinite : (Double.ofDecimal negative
      (.ofDigits whole fraction (power.getD 0))).isInfinite = false := by
    rw [Double.isInfinite, Double.ofDecimal, hmagnitude]
    exact beq_eq_false_iff_ne.mpr (Nat.ne_of_lt hfinite)
  rw [List.append_assoc, List.append_assoc,
    readNumber?_append check negative hwhole hfraction (readsPower_powerText power) hrest, hform,
    number]
  simp only [Bool.false_and, Bool.false_eq_true, if_false, hinfinite, Bool.and_false]
  rfl

end Json

namespace Double

open Json

variable {significand whole : Nat} {digits : List Char}

theorem fractionText_of_ne_nil {fraction : List Char} (h : fraction ≠ []) :
    fractionText fraction = '.' :: fraction := by
  cases fraction with
  | nil => exact absurd rfl h
  | cons digit digits => rfl

theorem whole_take (h : Whole digits) (hpos : whole ≠ 0) (hlt : whole < digits.length) :
    Whole (digits.take whole) where
  ne_nil := by
    rw [Ne, List.take_eq_nil_iff, not_or]
    exact ⟨hpos, h.ne_nil⟩
  all_digits := by
    have hall := h.all_digits
    rw [← List.take_append_drop whole digits, List.all_append, Bool.and_eq_true] at hall
    exact hall.1
  leading := by
    refine .inr ?_
    obtain rfl | hhead := h.leading
    · exact absurd (Nat.lt_one_iff.mp hlt) hpos
    · rwa [List.head?_take, if_neg hpos]

theorem whole_append_zeros (h : Whole digits) {zeros : Nat} (hzeros : digits = ['0'] → zeros = 0) :
    Whole (digits ++ List.replicate zeros '0') where
  ne_nil := List.append_ne_nil_of_left_ne_nil h.ne_nil _
  all_digits := by
    rw [List.all_append, h.all_digits, all_isDecimalDigit_replicate]
    rfl
  leading := by
    obtain heq | hhead := h.leading
    · exact .inl (by rw [hzeros heq, heq]; rfl)
    · exact .inr (by rwa [List.head?_append_of_ne_nil _ h.ne_nil])

section Digits

variable (h : DigitsOf significand digits) (hwhole : Whole digits)

include h hwhole

omit hwhole in
theorem numeral_zeros_append (zeros : Nat) :
    Numeral (nearest ⟨significand, -((zeros + digits.length : Nat) : Int)⟩)
      ('0' :: '.' :: List.replicate zeros '0' ++ digits) := by
  have hne : List.replicate zeros '0' ++ digits ≠ [] :=
    List.append_ne_nil_of_right_ne_nil _ h.ne_nil
  have hall : (List.replicate zeros '0' ++ digits).all isDecimalDigit = true := by
    rw [List.all_append, all_isDecimalDigit_replicate, h.all_digits]
    rfl
  have hnumeral := @Numeral.intro _ ['0'] _ none (whole_toDigits 0) hall
    (by rw [List.isEmpty_eq_false_iff.mpr hne]; rfl)
    (congrArg nearest (h.ofDigits_zeros_append zeros))
  rw [fractionText_of_ne_nil hne] at hnumeral
  simpa only [powerText, List.append_nil, List.cons_append, List.nil_append] using hnumeral

theorem numeral_append_zeros (zeros : Nat) (hzeros : digits = ['0'] → zeros = 0) :
    Numeral (nearest ⟨significand, zeros⟩)
      (digits ++ List.replicate zeros '0' ++ ['.', '0']) := by
  have hexponent : -1 + ((zeros + 1 : Nat) : Int) = zeros := by omega
  have hnearest := congrArg nearest (h.ofDigits_append_zeros zeros)
  rw [nearest_mul_tenTo, hexponent] at hnearest
  exact @Numeral.intro _ _ ['0'] none (whole_append_zeros hwhole hzeros) (by decide) rfl hnearest

theorem numeral_take_drop (power : Option Int) (hpos : whole ≠ 0) (hlt : whole < digits.length) :
    Numeral (nearest ⟨significand, power.getD 0 - ((digits.length - whole : Nat) : Int)⟩)
      (digits.take whole ++ '.' :: digits.drop whole ++ powerText power) := by
  have hne := DigitsOf.drop_ne_nil hlt
  have hnumeral := @Numeral.intro _ _ _ power (whole_take hwhole hpos hlt)
    (h.take_drop_digits whole).2 (by rw [List.isEmpty_eq_false_iff.mpr hne]; rfl)
    (congrArg nearest (h.ofDigits_take_drop whole (power.getD 0)))
  rw [fractionText_of_ne_nil hne] at hnumeral
  rwa [List.append_assoc]

theorem numeral_power (power : Int) :
    Numeral (nearest ⟨significand, power⟩) (digits ++ powerText (some power)) := by
  have hnumber := h.ofDigits_take_drop digits.length power
  rw [List.take_length, List.drop_length, Nat.sub_self, Int.natCast_zero, Int.sub_zero] at hnumber
  exact @Numeral.intro _ _ [] (some power) hwhole rfl rfl (congrArg nearest hnumber)

theorem numeral_pointed (exponent : Int) (hzero : digits = ['0'] → exponent = 0) :
    Numeral (nearest ⟨significand, exponent⟩) (pointed digits (exponent + digits.length)) := by
  unfold pointed
  by_cases hsmall : exponent + digits.length ≤ 0
  · have hexponent :
        -(((-(exponent + digits.length)).toNat + digits.length : Nat) : Int) = exponent := by
      omega
    have hnumeral := numeral_zeros_append h (-(exponent + digits.length)).toNat
    rw [hexponent] at hnumeral
    rwa [if_pos hsmall]
  · rw [if_neg hsmall]
    by_cases hlarge : (digits.length : Int) ≤ exponent + digits.length
    · have hexponent :
          (((exponent + digits.length).toNat - digits.length : Nat) : Int) = exponent := by
        omega
      have hnumeral := numeral_append_zeros h hwhole
        ((exponent + digits.length).toNat - digits.length) fun heq => by have := hzero heq; omega
      rw [hexponent] at hnumeral
      rwa [if_pos hlarge]
    · have hexponent : (none : Option Int).getD 0 -
          ((digits.length - (exponent + digits.length).toNat : Nat) : Int) = exponent := by
        rw [Option.getD_none]
        omega
      have hnumeral := @numeral_take_drop _ (exponent + digits.length).toNat _ h hwhole none
        (by omega) (by omega)
      rw [hexponent] at hnumeral
      rw [if_neg hlarge]
      simpa only [powerText, List.append_nil] using hnumeral

theorem numeral_scaled (exponent : Int) :
    Numeral (nearest ⟨significand, exponent⟩)
      (scaled true digits (exponent + digits.length - 1)) := by
  have hlength := List.length_pos_iff.mpr h.ne_nil
  unfold scaled
  by_cases hsingle : digits.length ≤ 1
  · have hexponent : exponent + digits.length - 1 = exponent := by omega
    have hnumeral := numeral_power h hwhole exponent
    rw [if_pos hsingle, hexponent]
    simpa only [powerText, Bool.true_and, decide_eq_true_eq] using hnumeral
  · have hexponent : (some (exponent + digits.length - 1)).getD 0 -
        ((digits.length - 1 : Nat) : Int) = exponent := by
      rw [Option.getD_some]
      omega
    have hnumeral := numeral_take_drop h hwhole (some (exponent + digits.length - 1)) one_ne_zero
      (Nat.not_le.mp hsingle)
    rw [hexponent] at hnumeral
    rw [if_neg hsingle]
    simpa only [powerText, Bool.true_and, decide_eq_true_eq] using hnumeral

end Digits

theorem numeral_decimalText (number : Decimal)
    (hzero : number.significand = 0 → number.exponent = 0) :
    Numeral (nearest number) (decimalText jsonStyle number) := by
  have hdigits := digitsOf_toDigits number.significand
  have hwhole := whole_toDigits number.significand
  unfold decimalText
  dsimp only
  split
  · rw [sub_add_cancel]
    refine numeral_pointed hdigits hwhole number.exponent fun heq => hzero ?_
    rw [← hdigits.value_eq, heq]
    rfl
  · exact numeral_scaled hdigits hwhole number.exponent

/-- The text of a finite double without its sign. -/
theorem numeral_finite {d : Double} (hfinite : d.magnitude < infiniteMagnitude) :
    Numeral d.magnitude
      (decimalText jsonStyle
        (if d.isZero then ⟨0, 0⟩ else shortest jsonStyle.tie d.magnitude)) := by
  have hnearest := nearest_written jsonStyle.tie hfinite
  -- Only zero has a significand of zero, and it is written with no power of ten.
  have hzero : (if d.isZero then ⟨0, 0⟩ else shortest jsonStyle.tie d.magnitude).significand = 0 →
      (if d.isZero then ⟨0, 0⟩ else shortest jsonStyle.tie d.magnitude).exponent = 0 := by
    split
    · exact fun _ => rfl
    · rename_i hzero
      intro hsignificand
      refine absurd ?_ hzero
      rw [if_neg hzero, nearest] at hnearest
      rw [Decimal.normalize, if_pos hsignificand] at hnearest
      exact beq_iff_eq.mpr hnearest.symm
  have hnumeral := numeral_decimalText _ hzero
  rwa [hnearest] at hnumeral

theorem finiteText_eq (d : Double) :
    finiteText jsonStyle d = (if d.isNegative then ['-'] else []) ++
      decimalText jsonStyle (if d.isZero then ⟨0, 0⟩ else shortest jsonStyle.tie d.magnitude) := by
  rw [finiteText]
  cases d.isNegative <;> rfl

theorem isReal_finiteText {d : Double} (hfinite : d.isFinite = true) :
    IsReal (finiteText jsonStyle d) := by
  rw [finiteText_eq]
  exact (numeral_finite (of_decide_eq_true hfinite)).isReal d.isNegative

/-- A finite double is read back from the text that is written for it. -/
theorem readsBack_standard {d : Double} (hfinite : d.isFinite = true) :
    TextFormat.standard.ReadsBack d := by
  have hmagnitude : d.magnitude < infiniteMagnitude := of_decide_eq_true hfinite
  have hnumeral := numeral_finite hmagnitude
  have hsign : (if d.isNegative then ['-'] else []) ∈ [[], ['-']] := by
    cases d.isNegative <;> decide
  have hnegative : ((if d.isNegative then ['-'] else []) == ['-']) = d.isNegative := by
    cases d.isNegative <;> decide
  have hread := @readNumber?_of_numeral _ _ [] .full d.isNegative hnumeral hmagnitude nofun
  rw [List.append_nil, ofMagnitude_magnitude] at hread
  have hsigned := readSigned?_append .full hsign hnumeral.startsWithDigit
  rw [hnegative, hread, ← finiteText_eq] at hsigned
  rw [TextFormat.ReadsBack, TextFormat.standard]
  simp only [hsigned]

end Double

end MigrationScript
