namespace MigrationScript

def tenTo (zeros : Nat) : Nat :=
  Nat.pow 10 zeros

theorem tenTo_succ (zeros : Nat) : tenTo (zeros + 1) = 10 * tenTo zeros :=
  Nat.mul_comm _ _

/-- The number `significand * 10 ^ exponent`. -/
structure Decimal where
  significand : Nat
  exponent : Int
  deriving DecidableEq, Repr, Inhabited

namespace Decimal

/-- The same number with no trailing zero in the significand; zero has the power zero. -/
def normalize (number : Decimal) : Decimal :=
  if number.significand = 0 then ⟨0, 0⟩
  else if number.significand % 10 = 0 then
    normalize ⟨number.significand / 10, number.exponent + 1⟩
  else number
termination_by number.significand
decreasing_by exact Nat.div_lt_self (by omega) (by omega)

theorem normalize_zero (exponent : Int) : normalize ⟨0, exponent⟩ = ⟨0, 0⟩ := by
  rw [normalize, if_pos rfl]

theorem normalize_ten_mul (significand : Nat) (exponent : Int) :
    normalize ⟨10 * significand, exponent⟩ = normalize ⟨significand, exponent + 1⟩ := by
  by_cases h : significand = 0
  · subst h
    rw [Nat.mul_zero, normalize_zero, normalize_zero]
  · rw [normalize, if_neg (by simp only; omega), if_pos (by simp only; omega)]
    simp only [Nat.mul_div_cancel_left significand (by decide : 0 < 10)]

theorem normalize_mul_tenTo (significand zeros : Nat) (exponent : Int) :
    normalize ⟨significand * tenTo zeros, exponent⟩ =
      normalize ⟨significand, exponent + zeros⟩ := by
  induction zeros generalizing exponent with
  | zero => simp [tenTo]
  | succ zeros ih =>
    rw [tenTo_succ, Nat.mul_left_comm, normalize_ten_mul, ih]
    congr 2
    omega

/-- The digits before a point, the digits after it, and a power of ten. -/
def ofDigits (whole fraction : List Char) (exponent : Int) : Decimal :=
  ⟨Nat.ofDigitChars 10 (whole ++ fraction) 0, exponent - fraction.length⟩

end Decimal

end MigrationScript
