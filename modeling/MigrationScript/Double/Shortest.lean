import MigrationScript.Double.Nearest

/-!
# Shortest decimals

A finite double is written with the fewest digits that read back as it. The candidates are the
multiples of a power of ten next to the double, for ever smaller powers. That one of them reads back
is not relied on: with all of its digits the double is a decimal itself.
-/

namespace MigrationScript

namespace Double

/-- Which of two decimals a double halfway between them is written as. -/
inductive Tie
  | up
  | toEven
  deriving DecidableEq, Repr

/-- A finite magnitude as a decimal, with all of its digits. -/
def exactDecimal (magnitude : Nat) : Decimal :=
  let power := power magnitude
  ⟨(significand magnitude <<< power.toNat) * Nat.pow 5 (-power).toNat, min power 0⟩

/-- The multiples of `10 ^ exponent` next to a magnitude, below or at it and above it, that read
back as the magnitude: the nearer one, if any. -/
def onGrid? (tie : Tie) (magnitude : Nat) (exponent : Int) : Option Nat :=
  let power := power magnitude
  let numerator := (significand magnitude <<< power.toNat) * tenTo (-exponent).toNat
  let denominator := tenTo exponent.toNat <<< (-power).toNat
  let below := numerator / denominator
  let twice := 2 * (numerator % denominator)
  let upper : Bool :=
    denominator < twice || (denominator == twice && (tie == .up || below % 2 == 1))
  match nearest ⟨below, exponent⟩ == magnitude, nearest ⟨below + 1, exponent⟩ == magnitude with
  | true, true => some (if upper then below + 1 else below)
  | true, false => some below
  | false, true => some (below + 1)
  | false, false => none

/-- A power of ten above a finite magnitude, and at most a hundredfold above it. -/
def coarsest (magnitude : Nat) : Int :=
  (((significand magnitude).log2 : Int) + power magnitude + 1) * 1233 / 4096 + 1

/-- The decimal on the coarsest grid that has one that reads back. Seventeen digits always suffice,
so the exact decimal is never needed. -/
def shortest (tie : Tie) (magnitude : Nat) : Decimal :=
  let found := (List.range 24).findSome? fun step : Nat =>
    let exponent := coarsest magnitude - step
    (onGrid? tie magnitude exponent).map fun significand => (⟨significand, exponent⟩ : Decimal)
  (found.getD (exactDecimal magnitude)).normalize

theorem nearest_onGrid {tie : Tie} {magnitude : Nat} {exponent : Int} {found : Nat}
    (h : onGrid? tie magnitude exponent = some found) :
    nearest ⟨found, exponent⟩ = magnitude := by
  simp only [onGrid?] at h
  split at h
  · rename_i hbelow habove
    simp only [Option.some.injEq] at h
    rw [← h]
    split
    · exact beq_iff_eq.1 habove
    · exact beq_iff_eq.1 hbelow
  · rename_i hbelow _
    simp only [Option.some.injEq] at h
    exact h ▸ beq_iff_eq.1 hbelow
  · rename_i _ habove
    simp only [Option.some.injEq] at h
    exact h ▸ beq_iff_eq.1 habove
  · simp at h

end Double

end MigrationScript
