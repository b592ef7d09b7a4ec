import MigrationScript.Decimal
import MigrationScript.Double.Basic

namespace MigrationScript

/-- The integer nearest to a quotient, the even one of two that are equally near. -/
def roundHalfEven (numerator denominator : Nat) : Nat :=
  let quotient := numerator / denominator
  let twice := 2 * (numerator % denominator)
  if twice < denominator ∨ (twice = denominator ∧ quotient % 2 = 0) then quotient else quotient + 1

namespace Double

/-- The largest power of two that is at most a quotient of positive numbers. -/
def leadingPower (numerator denominator : Nat) : Int :=
  let guess : Int := numerator.log2 - denominator.log2
  if denominator <<< guess.toNat ≤ numerator <<< (-guess).toNat then guess else guess - 1

/-- The magnitude nearest to a quotient of positive numbers: infinity beyond the largest double. -/
def nearestMagnitude (numerator denominator : Nat) : Nat :=
  let power := max (leadingPower numerator denominator - 52) (-1074)
  let rounded := roundHalfEven (numerator <<< (-power).toNat) (denominator <<< power.toNat)
  min ((power + 1074).toNat * leadingBit + rounded) infiniteMagnitude

/-- The magnitude nearest to a decimal number without trailing zeros. Numbers that lie beyond all
doubles, or below half of the least one, are told by their size alone. -/
def nearestNormalized (number : Decimal) : Nat :=
  if number.significand = 0 then 0
  else if 400 < number.exponent then infiniteMagnitude
  else if number.exponent < 0 ∧ (number.significand.log2 : Int) + 3 * number.exponent < -1080 then 0
  else
    nearestMagnitude (number.significand * tenTo number.exponent.toNat)
      (tenTo (-number.exponent).toNat)

def nearest (number : Decimal) : Nat :=
  nearestNormalized number.normalize

def ofDecimal (negative : Bool) (number : Decimal) : Double :=
  ofMagnitude negative (nearest number)

def ofInt (value : Int) : Double :=
  ofDecimal (value < 0) ⟨value.natAbs, 0⟩

theorem nearest_mul_tenTo (significand zeros : Nat) (exponent : Int) :
    nearest ⟨significand * tenTo zeros, exponent⟩ = nearest ⟨significand, exponent + zeros⟩ := by
  rw [nearest, Decimal.normalize_mul_tenTo, nearest]

end Double

end MigrationScript
