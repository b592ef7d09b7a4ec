import MigrationScript.Proofs.Double.Exact
import MigrationScript.Proofs.Token.Literal

namespace MigrationScript

namespace Double

open Lexer

variable {rest : List Char}

theorem all_isDecimalDigit_replicate (count : Nat) :
    (List.replicate count '0').all isDecimalDigit = true := by
  apply List.all_eq_true.mpr
  intro c hc
  rw [List.eq_of_mem_replicate hc]
  decide

/-- Decimal digits, at least one, of a number. -/
structure DigitsOf (significand : Nat) (digits : List Char) : Prop where
  ne_nil : digits ≠ []
  all_digits : digits.all isDecimalDigit = true
  value_eq : Nat.ofDigitChars 10 digits 0 = significand

theorem digitsOf_toDigits (significand : Nat) :
    DigitsOf significand (Nat.toDigits 10 significand) where
  ne_nil := Nat.toDigits_ne_nil
  all_digits := all_isDecimalDigit_toDigits significand
  value_eq := Nat.ofDigitChars_ten_toDigits

namespace DigitsOf

variable {significand whole : Nat} {digits : List Char} (h : DigitsOf significand digits)

include h

theorem ofDigits_zeros_append (zeros : Nat) :
    Decimal.ofDigits ['0'] (List.replicate zeros '0' ++ digits) 0 =
      ⟨significand, -((zeros + digits.length : Nat) : Int)⟩ := by
  have hzeros : ['0'] ++ (List.replicate zeros '0' ++ digits) =
      List.replicate (zeros + 1) '0' ++ digits := by
    rw [List.replicate_succ]
    rfl
  unfold Decimal.ofDigits
  rw [hzeros, Nat.ofDigitChars_append, Nat.ofDigitChars_replicate_zero, Nat.mul_zero, h.value_eq,
    List.length_append, List.length_replicate, Int.zero_sub]

theorem ofDigits_append_zeros (zeros : Nat) :
    Decimal.ofDigits (digits ++ List.replicate zeros '0') ['0'] 0 =
      ⟨significand * tenTo (zeros + 1), -1⟩ := by
  have hzeros : digits ++ List.replicate zeros '0' ++ ['0'] =
      digits ++ List.replicate (zeros + 1) '0' := by
    rw [List.append_assoc, ← List.replicate_succ']
  unfold Decimal.ofDigits
  rw [hzeros, Nat.ofDigitChars_append, Nat.ofDigitChars_replicate_zero, h.value_eq, Nat.mul_comm]
  rfl

theorem ofDigits_take_drop (whole : Nat) (power : Int) :
    Decimal.ofDigits (digits.take whole) (digits.drop whole) power =
      ⟨significand, power - ((digits.length - whole : Nat) : Int)⟩ := by
  unfold Decimal.ofDigits
  rw [List.take_append_drop, h.value_eq, List.length_drop]

theorem take_drop_digits (whole : Nat) :
    (digits.take whole).all isDecimalDigit = true ∧
      (digits.drop whole).all isDecimalDigit = true := by
  have hall := h.all_digits
  rw [← List.take_append_drop whole digits, List.all_append, Bool.and_eq_true] at hall
  exact hall

theorem take_ne_nil (hpos : whole ≠ 0) : digits.take whole ≠ [] := by
  rw [Ne, List.take_eq_nil_iff, not_or]
  exact ⟨hpos, h.ne_nil⟩

omit h in
theorem drop_ne_nil (hlt : whole < digits.length) : digits.drop whole ≠ [] := by
  rw [Ne, List.drop_eq_nil_iff]
  exact not_le.mpr hlt

/-- All digits behind the point, with zeros between them. -/
theorem kindsOf_zeros_append (zeros : Nat) (hrest : Apart rest) :
    kindsOf ('0' :: '.' :: List.replicate zeros '0' ++ digits ++ rest) =
      .double (.ofDecimal false ⟨significand, -((zeros + digits.length : Nat) : Int)⟩) ::
        kindsOf rest := by
  have hne : List.replicate zeros '0' ++ digits ≠ [] :=
    List.append_ne_nil_of_right_ne_nil _ h.ne_nil
  have hall : (List.replicate zeros '0' ++ digits).all isDecimalDigit = true := by
    rw [List.all_append, all_isDecimalDigit_replicate, h.all_digits]
    rfl
  have hkinds := kindsOf_pointed (List.cons_ne_nil '0' []) (by decide) hne hall hrest
  rw [h.ofDigits_zeros_append] at hkinds
  rw [← hkinds]
  simp only [List.cons_append, List.append_assoc, List.nil_append]

/-- All digits in front of the point, with zeros between them. -/
theorem kindsOf_append_zeros (zeros : Nat) (hrest : Apart rest) :
    kindsOf (digits ++ List.replicate zeros '0' ++ ['.', '0'] ++ rest) =
      .double (.ofDecimal false ⟨significand, zeros⟩) :: kindsOf rest := by
  have hne : digits ++ List.replicate zeros '0' ≠ [] :=
    List.append_ne_nil_of_left_ne_nil h.ne_nil _
  have hall : (digits ++ List.replicate zeros '0').all isDecimalDigit = true := by
    rw [List.all_append, all_isDecimalDigit_replicate, h.all_digits]
    rfl
  have hexponent : -1 + ((zeros + 1 : Nat) : Int) = zeros := by omega
  have hkinds := kindsOf_pointed hne hall (List.cons_ne_nil '0' []) (by decide) hrest
  -- The zero behind the point is a digit too, so that the number is read with one power less.
  rw [h.ofDigits_append_zeros, ofDecimal, nearest_mul_tenTo, hexponent] at hkinds
  rw [ofDecimal, ← hkinds]
  simp only [List.cons_append, List.append_assoc, List.nil_append]

/-- Digits on both sides of the point. -/
theorem kindsOf_take_drop (hpos : whole ≠ 0) (hlt : whole < digits.length)
    (hrest : Apart rest) :
    kindsOf (digits.take whole ++ '.' :: digits.drop whole ++ rest) =
      .double (.ofDecimal false ⟨significand, 0 - ((digits.length - whole : Nat) : Int)⟩) ::
        kindsOf rest := by
  obtain ⟨htake, hdrop⟩ := h.take_drop_digits whole
  have hkinds := kindsOf_pointed (h.take_ne_nil hpos) htake (drop_ne_nil hlt) hdrop hrest
  rw [h.ofDigits_take_drop] at hkinds
  rw [← hkinds]
  simp only [List.cons_append, List.append_assoc]

/-- Digits with a point among them are read as the number that they have been written for. -/
theorem kindsOf_pointed (exponent : Int) (hrest : Apart rest) :
    kindsOf (pointed digits (exponent + digits.length) ++ rest) =
      .double (.ofDecimal false ⟨significand, exponent⟩) :: kindsOf rest := by
  unfold pointed
  by_cases hsmall : exponent + digits.length ≤ 0
  · rw [if_pos hsmall, h.kindsOf_zeros_append _ hrest]
    have hexponent :
        -(((-(exponent + digits.length)).toNat + digits.length : Nat) : Int) = exponent := by
      omega
    rw [hexponent]
  · rw [if_neg hsmall]
    by_cases hlarge : (digits.length : Int) ≤ exponent + digits.length
    · rw [if_pos hlarge, h.kindsOf_append_zeros _ hrest]
      have hexponent :
          (((exponent + digits.length).toNat - digits.length : Nat) : Int) = exponent := by
        omega
      rw [hexponent]
    · rw [if_neg hlarge, h.kindsOf_take_drop (by omega) (by omega) hrest]
      have hexponent :
          0 - ((digits.length - (exponent + digits.length).toNat : Nat) : Int) = exponent := by
        omega
      rw [hexponent]

/-- Digits with a power of ten are read as the number that they have been written for. -/
theorem kindsOf_scaled (exponent : Int) (hrest : Apart rest) :
    kindsOf (scaled false digits (exponent + digits.length - 1) ++ rest) =
      .double (.ofDecimal false ⟨significand, exponent⟩) :: kindsOf rest := by
  have hlength := List.length_pos_iff.mpr h.ne_nil
  unfold scaled
  by_cases hsingle : digits.length ≤ 1
  · have hkinds := kindsOf_power (exponent + digits.length - 1) h.ne_nil h.all_digits hrest
    have hnumber := h.ofDigits_take_drop digits.length (exponent + digits.length - 1)
    have hexponent :
        exponent + digits.length - 1 - ((digits.length - digits.length : Nat) : Int) =
          exponent := by omega
    rw [List.take_length, List.drop_length, hexponent] at hnumber
    rw [if_pos hsingle, ← hnumber, ← hkinds]
    simp only [Bool.false_and, Bool.false_eq_true, if_false, List.nil_append, List.append_assoc,
      List.cons_append]
  · obtain ⟨htake, hdrop⟩ := h.take_drop_digits 1
    have hkinds := kindsOf_pointed_power (exponent + digits.length - 1)
      (h.take_ne_nil one_ne_zero) htake (drop_ne_nil (not_le.mp hsingle)) hdrop hrest
    have hexponent :
        exponent + digits.length - 1 - ((digits.length - 1 : Nat) : Int) = exponent := by omega
    rw [h.ofDigits_take_drop, hexponent] at hkinds
    rw [if_neg hsingle, ← hkinds]
    simp only [Bool.false_and, Bool.false_eq_true, if_false, List.nil_append, List.append_assoc,
      List.cons_append]

end DigitsOf

theorem kindsOf_decimalText (number : Decimal) (hrest : Apart rest) :
    kindsOf (decimalText scriptStyle number ++ rest) =
      .double (.ofDecimal false number) :: kindsOf rest := by
  unfold decimalText
  dsimp only
  split
  · rw [sub_add_cancel]
    exact (digitsOf_toDigits number.significand).kindsOf_pointed number.exponent hrest
  · exact (digitsOf_toDigits number.significand).kindsOf_scaled number.exponent hrest

/-- A finite double is read as the same double, behind its sign if it has one. -/
theorem kindsOf_finiteText {d : Double} (hfinite : d.magnitude < infiniteMagnitude)
    (hrest : Apart rest) :
    kindsOf (d.finiteText scriptStyle ++ rest) =
      (if d.isNegative then [.punctuation .minus, .double (ofMagnitude false d.magnitude)]
        else [.double (ofMagnitude false d.magnitude)]) ++ kindsOf rest := by
  have hdigits := kindsOf_decimalText
    (if d.isZero then ⟨0, 0⟩ else shortest scriptStyle.tie d.magnitude) hrest
  rw [ofDecimal, nearest_written _ hfinite] at hdigits
  unfold finiteText
  dsimp only
  split
  · rw [List.cons_append, kindsOf_mark rfl (by decide), hdigits]
    rfl
  · rw [hdigits]
    rfl

end Double

end MigrationScript
