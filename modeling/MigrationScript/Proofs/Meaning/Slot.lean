import Mathlib.Algebra.Ring.Int.Defs
import MigrationScript.Proofs.Meaning.Declaration

namespace MigrationScript

/-! ### What a parameter receives -/

/-- What a parameter takes numbers as. -/
inductive Slot
  | int
  | long
  | default
  deriving DecidableEq

namespace Slot

def ofParameter? (name : String) : Option Slot :=
  match name with
  | "incrementBy" => some .int
  | "startWith" | "minValue" | "maxValue" | "with" => some .long
  | "defaultValue" => some .default
  | _ => none

/-- The value of the parameter, as the statement reads it. -/
def read (slot : Slot) : Conversion DefaultValue := fun name expr =>
  match slot with
  | .int => (Expr.toInt name expr).map .int
  | .long => (Expr.toLong name expr).map .long
  | .default => Expr.toDefault name expr

/-- What a parameter makes of an integer, which may be marked as long: a word with exactly this
value, or a reason why there is none. -/
inductive Receives (name : String) (number : Int) (isLong : Bool) :
    Slot → Except ScriptCause DefaultValue → Prop
  | int {word : Int32} : isLong = false → word.toInt = number →
    Receives name number isLong .int (.ok (.int word))
  | intRange : isLong = false → ¬(-2 ^ 31 ≤ number ∧ number < 2 ^ 31) →
    Receives name number isLong .int (.error (.outOfRange name .int))
  | intMark : isLong = true → Receives name number isLong .int (.error (.typeMismatch name .int))
  | long {word : Int64} : word.toInt = number →
    Receives name number isLong .long (.ok (.long word))
  | longRange : ¬(-2 ^ 63 ≤ number ∧ number < 2 ^ 63) →
    Receives name number isLong .long (.error (.outOfRange name .long))
  | defaultInt {word : Int32} : isLong = false → word.toInt = number →
    Receives name number isLong .default (.ok (.int word))
  | defaultLong {word : Int64} : isLong = true ∨ ¬(-2 ^ 31 ≤ number ∧ number < 2 ^ 31) →
    word.toInt = number → Receives name number isLong .default (.ok (.long word))
  | defaultRange : ¬(-2 ^ 63 ≤ number ∧ number < 2 ^ 63) →
    Receives name number isLong .default (.error (.outOfRange name .long))

theorem int32?_cases (number : Int) :
    (∃ word, int32? number = some word ∧ word.toInt = number) ∨
      int32? number = none ∧ ¬(-2 ^ 31 ≤ number ∧ number < 2 ^ 31) := by
  cases hword : int32? number with
  | some word => exact .inl ⟨word, rfl, int32?_eq_some_iff.mp hword⟩
  | none =>
    refine .inr ⟨rfl, fun hrange => ?_⟩
    rw [int32?, if_pos (by omega)] at hword
    cases hword

theorem int64?_cases (number : Int) :
    (∃ word, int64? number = some word ∧ word.toInt = number) ∨
      int64? number = none ∧ ¬(-2 ^ 63 ≤ number ∧ number < 2 ^ 63) := by
  cases hword : int64? number with
  | some word => exact .inl ⟨word, rfl, int64?_eq_some_iff.mp hword⟩
  | none =>
    refine .inr ⟨rfl, fun hrange => ?_⟩
    rw [int64?, if_pos (by omega)] at hword
    cases hword

variable (name : String) (number : Int) (isLong : Bool) (span : Span)

/-- The outcome with the place of the number. -/
def located (outcome : Except ScriptCause DefaultValue) : Except ScriptError DefaultValue :=
  outcome.mapError (⟨·, span⟩)

theorem exists_receives_int : ∃ outcome, Receives name number isLong .int outcome ∧
    read .int name (.constant (.integer number isLong) span) = located span outcome := by
  cases isLong with
  | true => exact ⟨_, .intMark rfl, rfl⟩
  | false =>
    obtain ⟨word, hword, hvalue⟩ | ⟨hnone, hrange⟩ := int32?_cases number
    · refine ⟨_, .int rfl hvalue, ?_⟩
      simp only [read, Expr.toInt, hword, located, Except.map, Except.mapError]
    · refine ⟨_, .intRange rfl hrange, ?_⟩
      simp only [read, Expr.toInt, hnone, Expr.outOfRange, Expr.span, located, Except.map,
        Except.mapError]

theorem exists_receives_long : ∃ outcome, Receives name number isLong .long outcome ∧
    read .long name (.constant (.integer number isLong) span) = located span outcome := by
  obtain ⟨word, hword, hvalue⟩ | ⟨hnone, hrange⟩ := int64?_cases number
  · refine ⟨_, .long hvalue, ?_⟩
    simp only [read, Expr.toLong, hword, located, Except.map, Except.mapError]
  · refine ⟨_, .longRange hrange, ?_⟩
    simp only [read, Expr.toLong, hnone, Expr.outOfRange, Expr.span, located, Except.map,
      Except.mapError]

/-- A default that is marked as long, or does not fit the other form. -/
theorem exists_receives_wide (hwide : isLong = true ∨ ¬(-2 ^ 31 ≤ number ∧ number < 2 ^ 31))
    (hdefault : Expr.integerDefault? number isLong = (int64? number).map .long) :
    ∃ outcome, Receives name number isLong .default outcome ∧
      read .default name (.constant (.integer number isLong) span) = located span outcome := by
  obtain ⟨word, hword, hvalue⟩ | ⟨hnone, hrange⟩ := int64?_cases number
  · refine ⟨_, .defaultLong hwide hvalue, ?_⟩
    simp only [read, Expr.toDefault, hdefault, hword, Option.map, located, Except.mapError]
  · refine ⟨_, .defaultRange hrange, ?_⟩
    simp only [read, Expr.toDefault, hdefault, hnone, Option.map, Expr.outOfRange, Expr.span,
      located, Except.mapError]

theorem exists_receives_default : ∃ outcome, Receives name number isLong .default outcome ∧
    read .default name (.constant (.integer number isLong) span) = located span outcome := by
  cases isLong with
  | true => exact exists_receives_wide name number true span (.inl rfl) rfl
  | false =>
    obtain ⟨word, hword, hvalue⟩ | ⟨hnone, hrange⟩ := int32?_cases number
    · refine ⟨_, .defaultInt rfl hvalue, ?_⟩
      simp only [read, Expr.toDefault, Expr.integerDefault?, hword, located, Except.mapError]
    · refine exists_receives_wide name number false span (.inr hrange) ?_
      simp only [Expr.integerDefault?, hnone]

/-- A parameter receives exactly the number, or rejects it and says where it stands. -/
theorem exists_receives (slot : Slot) : ∃ outcome, slot.Receives name number isLong outcome ∧
    slot.read name (.constant (.integer number isLong) span) = located span outcome := by
  cases slot with
  | int => exact exists_receives_int name number isLong span
  | long => exact exists_receives_long name number isLong span
  | default => exact exists_receives_default name number isLong span

end Slot

end MigrationScript
