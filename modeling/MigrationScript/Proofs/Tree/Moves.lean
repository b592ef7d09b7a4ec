import MigrationScript.Proofs.Tree.Reading

/-!
# Readers go forward

A reader stops behind tokens that it has read one after the other, also where it fails.
-/

namespace MigrationScript

/-! ### Places one behind the other -/

namespace Cursor

/-- From one place the given tokens are read, and the other place lies behind them. -/
structure Passes (before : Cursor) (read : List Token) (after : Cursor) : Prop where
  finish_eq : after.finish = before.finish
  rest_eq : before.rest = read ++ after.rest
  previous_eq : after.previous = (read.getLast?.map (·.span)).getD before.previous

variable {before middle after : Cursor} {read read' : List Token}

theorem Passes.refl (cursor : Cursor) : cursor.Passes [] cursor :=
  ⟨rfl, rfl, rfl⟩

theorem Passes.trans (hfirst : before.Passes read middle) (hsecond : middle.Passes read' after) :
    before.Passes (read ++ read') after := by
  refine ⟨hsecond.finish_eq.trans hfirst.finish_eq, ?_, ?_⟩
  · rw [hfirst.rest_eq, hsecond.rest_eq, List.append_assoc]
  · rw [hsecond.previous_eq, hfirst.previous_eq, List.getLast?_append]
    cases read'.getLast? <;> rfl

theorem Passes.ends (h : before.Passes read after) (hends : before.Ends) : after.Ends := by
  rw [Ends, h.finish_eq]
  exact hends

theorem Passes.length_rest (h : before.Passes read after) :
    before.rest.length = read.length + after.rest.length := by
  rw [h.rest_eq, List.length_append]

/-- Two accounts of what lies between two places are the same. -/
theorem Passes.kinds_eq {kinds : List TokenKind} (h : before.Passes read after)
    (hreads : before.Reads kinds after) : read.map (·.kind) = kinds := by
  obtain ⟨-, read', hread', rfl⟩ := hreads
  rw [List.append_cancel_right (h.rest_eq.symm.trans hread')]

theorem passes_advance (cursor : Cursor) : ∃ read, cursor.Passes read cursor.advance := by
  obtain ⟨rest, finish, previous⟩ := cursor
  cases rest with
  | nil => exact ⟨[], .refl _⟩
  | cons token rest => exact ⟨[token], rfl, rfl, rfl⟩

end Cursor

namespace Parser

/-- The place that a parser has reached. -/
def place {α : Type} : EStateM.Result ParseError Cursor α → Cursor
  | .ok _ after => after
  | .error _ after => after

variable {α β : Type} {parser : Parser α} {further : α → Parser β}

/-- The parser stops behind tokens that it has read, whether it succeeds or fails. -/
def Moves (parser : Parser α) : Prop :=
  ∀ before : Cursor, ∃ read, before.Passes read (place (parser before))

theorem Moves.length_le (h : Moves parser) (before : Cursor) :
    (place (parser before)).rest.length ≤ before.rest.length := by
  obtain ⟨read, hread⟩ := h before
  have hlength := hread.length_rest
  omega

/-! ### Steps -/

theorem moves_pure (value : α) : Moves (pure value) :=
  fun before => ⟨[], .refl before⟩

theorem moves_throw (error : ParseError) : Moves (throw error : Parser α) :=
  fun before => ⟨[], .refl before⟩

theorem Moves.bind (h : Moves parser) (hfurther : ∀ value, Moves (further value)) :
    Moves (parser >>= further) := by
  intro before
  obtain ⟨read, hread⟩ := h before
  cases hvalue : parser before with
  | ok value middle =>
    rw [hvalue] at hread
    obtain ⟨read', hread'⟩ := hfurther value middle
    rw [bind_of_ok hvalue]
    exact ⟨read ++ read', hread.trans hread'⟩
  | error error middle =>
    rw [hvalue] at hread
    rw [bind_of_error hvalue]
    exact ⟨read, hread⟩

theorem moves_get_bind {further : Cursor → Parser β} (h : ∀ cursor, Moves (further cursor)) :
    Moves (get >>= further) :=
  fun before => h before before

theorem moves_advance : Moves advance :=
  fun before => before.passes_advance

/-- What the first step has read, the whole parser has read. -/
theorem place_bind_le {cursor : Cursor} (h : ∀ value, Moves (further value)) :
    (place ((parser >>= further) cursor)).rest.length ≤ (place (parser cursor)).rest.length := by
  cases hvalue : parser cursor with
  | ok value middle =>
    rw [bind_of_ok hvalue]
    exact (h value).length_le middle
  | error error middle =>
    rw [bind_of_error hvalue]
    exact Nat.le_refl _

end Parser

end MigrationScript
