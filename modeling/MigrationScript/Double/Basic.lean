/-!
# Doubles

Binary floating point numbers of 64 bits are kept as their bits. What is computed with them is
computed in integers, so that it can be run and reasoned about alike.
-/

namespace MigrationScript

/-- A double, given by its bits: a sign, eleven bits of exponent and 52 bits of fraction. -/
structure Double where
  bits : UInt64
  deriving DecidableEq, Repr, Inhabited

namespace Double

def signBit : Nat := 0x8000000000000000

/-- The bit above the fraction, which a significand has but for the least numbers. -/
def leadingBit : Nat := 0x0010000000000000

/-- The bits without the sign, which order the doubles of one sign. -/
def magnitude (d : Double) : Nat :=
  d.bits.toNat % signBit

def isNegative (d : Double) : Bool :=
  signBit ≤ d.bits.toNat

/-- The magnitude of the two infinities; what lies above it is not a number. -/
def infiniteMagnitude : Nat := 0x7ff0000000000000

def isNaN (d : Double) : Bool :=
  infiniteMagnitude < d.magnitude

def isInfinite (d : Double) : Bool :=
  d.magnitude == infiniteMagnitude

def isFinite (d : Double) : Bool :=
  d.magnitude < infiniteMagnitude

def isZero (d : Double) : Bool :=
  d.magnitude == 0

def ofMagnitude (negative : Bool) (magnitude : Nat) : Double :=
  ⟨.ofNat ((if negative then signBit else 0) + magnitude)⟩

def nan : Double := ⟨0x7ff8000000000000⟩

def infinity (negative : Bool) : Double :=
  ofMagnitude negative infiniteMagnitude

def negate (d : Double) : Double :=
  ofMagnitude (!d.isNegative) d.magnitude

/-- Numerical equality: a NaN differs from everything, and the two zeros are equal. -/
def same (a b : Double) : Bool :=
  !a.isNaN && !b.isNaN && (a == b || (a.isZero && b.isZero))

/-- The integer factor of a finite magnitude, which is `significand * 2 ^ power`. -/
def significand (magnitude : Nat) : Nat :=
  if magnitude < leadingBit then magnitude else leadingBit + magnitude % leadingBit

def power (magnitude : Nat) : Int :=
  if magnitude < leadingBit then -1074 else (magnitude / leadingBit : Nat) - 1075

theorem magnitude_lt (d : Double) : d.magnitude < signBit :=
  Nat.mod_lt _ (by decide)

theorem toNat_bits (d : Double) :
    d.bits.toNat = (if d.isNegative then signBit else 0) + d.magnitude := by
  have h := d.bits.toNat_lt
  by_cases hneg : signBit ≤ d.bits.toNat
  · rw [isNegative, if_pos (decide_eq_true hneg), magnitude]
    rw [signBit] at hneg ⊢
    omega
  · rw [isNegative, if_neg (by simpa using hneg), magnitude]
    rw [signBit] at hneg ⊢
    omega

@[simp]
theorem ofMagnitude_magnitude (d : Double) : ofMagnitude d.isNegative d.magnitude = d := by
  rw [ofMagnitude, ← toNat_bits, UInt64.ofNat_toNat]

theorem magnitude_ofMagnitude (negative : Bool) {m : Nat} (h : m < signBit) :
    (ofMagnitude negative m).magnitude = m := by
  rw [signBit] at h
  cases negative <;> simp [ofMagnitude, magnitude, signBit] <;> omega

theorem isNegative_ofMagnitude (negative : Bool) {m : Nat} (h : m < signBit) :
    (ofMagnitude negative m).isNegative = negative := by
  rw [signBit] at h
  cases negative <;> simp [ofMagnitude, isNegative, signBit] <;> omega

end Double

end MigrationScript
