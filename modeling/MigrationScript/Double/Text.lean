import MigrationScript.Double.Shortest
import MigrationScript.Text.Integer

namespace MigrationScript

namespace Double

/-- The decisions of one way to write doubles: the least and the greatest power of ten of the first
digit that are written without a power of ten, whether a power of ten that is not negative has a
plus, and the choice between equally near digits. -/
structure Style where
  least : Int
  greatest : Int
  plus : Bool
  tie : Tie

/-- Scripts write numbers from `0.0001` up to, and without, `1e16` without a power of ten. -/
def scriptStyle : Style := ⟨-4, 15, false, .up⟩

/-- JSON text writes numbers from `0.00001` up to, and without, `1e+16` without a power of ten, and
gives each power of ten a sign. -/
def jsonStyle : Style := ⟨-5, 15, true, .toEven⟩

/-- Digits with a point behind the first `whole` of them; there is a digit on both sides. -/
def pointed (digits : List Char) (whole : Int) : List Char :=
  if whole ≤ 0 then '0' :: '.' :: List.replicate (-whole).toNat '0' ++ digits
  else if digits.length ≤ whole then
    digits ++ List.replicate (whole.toNat - digits.length) '0' ++ ['.', '0']
  else digits.take whole.toNat ++ '.' :: digits.drop whole.toNat

/-- Digits with a point behind the first, if there are more, and a power of ten. -/
def scaled (plus : Bool) (digits : List Char) (power : Int) : List Char :=
  (if digits.length ≤ 1 then digits else digits.take 1 ++ '.' :: digits.drop 1) ++
    'e' :: ((if plus && 0 ≤ power then ['+'] else []) ++ integerText power)

def decimalText (style : Style) (number : Decimal) : List Char :=
  let digits := Nat.toDigits 10 number.significand
  let power := number.exponent + digits.length - 1
  if number.significand = 0 ∨ (style.least ≤ power ∧ power ≤ style.greatest) then
    pointed digits (power + 1)
  else scaled style.plus digits power

def finiteText (style : Style) (d : Double) : List Char :=
  let digits := decimalText style (if d.isZero then ⟨0, 0⟩ else shortest style.tie d.magnitude)
  if d.isNegative then '-' :: digits else digits

def text (d : Double) : String :=
  if d.isNaN then "NaN"
  else if d.isInfinite then (if d.isNegative then "-inf" else "inf")
  else String.ofList (finiteText scriptStyle d)

example : finiteText scriptStyle ⟨0x4341c37937e08000⟩ = ['1', 'e', '1', '6'] ∧
    finiteText jsonStyle ⟨0x4341c37937e08000⟩ = ['1', 'e', '+', '1', '6'] := by decide +kernel

example : finiteText scriptStyle ⟨0xbee4f8b588e368f1⟩ = ['-', '1', 'e', '-', '5'] ∧
    finiteText jsonStyle ⟨0xbee4f8b588e368f1⟩ = ['-', '0', '.', '0', '0', '0', '0', '1'] := by
  decide +kernel

end Double

end MigrationScript
