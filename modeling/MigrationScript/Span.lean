import MigrationScript.Text.Width

namespace MigrationScript

/-- The bytes from `start` up to, and without, `stop`. -/
structure Span where
  start : Nat
  stop : Nat
  deriving DecidableEq, Repr, Inhabited

namespace Span

/-- The number of bytes, unless the range runs backwards. -/
def length? (span : Span) : Option Nat :=
  if span.start ≤ span.stop then some (span.stop - span.start) else none

def isEmpty (span : Span) : Bool :=
  span.start == span.stop

def merge (a b : Span) : Span :=
  ⟨min a.start b.start, max a.stop b.stop⟩

def shift (distance : Nat) (span : Span) : Span :=
  ⟨span.start + distance, span.stop + distance⟩

/-- The characters in the range, if it lies in the text and starts and ends between characters. -/
def slice? (span : Span) (text : List Char) : Option (List Char) :=
  if span.start ≤ span.stop then do
    let (_, rest) ← splitAtWidth span.start text
    let (covered, _) ← splitAtWidth (span.stop - span.start) rest
    return covered
  else none

/-- The covered text, empty if there is none. -/
def slice (span : Span) (text : String) : String :=
  String.ofList ((span.slice? text.toList).getD [])

def text (span : Span) : String :=
  s!"{span.start}..{span.stop}"

theorem slice?_eq_some_iff {span : Span} {text covered : List Char} :
    span.slice? text = some covered ↔
      ∃ before after, text = before ++ covered ++ after ∧ width before = span.start ∧
        span.start + width covered = span.stop := by
  rw [slice?]
  split
  · rename_i hle
    simp only [Option.pure_def, Option.bind_eq_bind, Option.bind_eq_some_iff, Prod.exists,
      splitAtWidth_eq_some_iff, Option.some.injEq]
    constructor
    · rintro ⟨before, rest, ⟨rfl, hbefore⟩, first, after, ⟨rfl, hfirst⟩, rfl⟩
      exact ⟨before, after, by simp, hbefore, by omega⟩
    · rintro ⟨before, after, rfl, hbefore, hcovered⟩
      exact ⟨before, covered ++ after, ⟨by simp, hbefore⟩, covered, after, ⟨rfl, by omega⟩, rfl⟩
  · rename_i hlt
    simp only [reduceCtorEq, false_iff, not_exists, not_and]
    intro before after _ _ hcovered
    omega

end Span

end MigrationScript
