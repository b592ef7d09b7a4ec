namespace MigrationScript

def integerText (value : Int) : List Char :=
  if value < 0 then '-' :: Nat.toDigits 10 value.natAbs else Nat.toDigits 10 value.natAbs

def isDecimalDigit (c : Char) : Bool :=
  '0' ≤ c && c ≤ '9'

end MigrationScript
