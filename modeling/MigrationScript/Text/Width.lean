/-!
# The width of text

Source positions count bytes of UTF-8, while the text itself is a list of characters.
-/

namespace MigrationScript

/-- The number of bytes that the characters take in UTF-8. -/
def width : List Char → Nat
  | [] => 0
  | c :: cs => c.utf8Size + width cs

@[simp]
theorem width_nil : width [] = 0 := rfl

@[simp]
theorem width_cons (c : Char) (cs : List Char) : width (c :: cs) = c.utf8Size + width cs := rfl

@[simp]
theorem width_append (cs ds : List Char) : width (cs ++ ds) = width cs + width ds := by
  induction cs with
  | nil => simp
  | cons c cs ih => simp [ih, Nat.add_assoc]

theorem width_pos {cs : List Char} (h : cs ≠ []) : 0 < width cs := by
  cases cs with
  | nil => exact absurd rfl h
  | cons c cs =>
    have := c.utf8Size_pos
    rw [width_cons]
    omega

/-- Cuts the text after the given number of bytes, if a character ends there. -/
def splitAtWidth : Nat → List Char → Option (List Char × List Char)
  | 0, cs => some ([], cs)
  | _ + 1, [] => none
  | n + 1, c :: cs =>
    if c.utf8Size ≤ n + 1 then
      (splitAtWidth (n + 1 - c.utf8Size) cs).map fun (before, after) => (c :: before, after)
    else none

theorem splitAtWidth_width_append (cs ds : List Char) :
    splitAtWidth (width cs) (cs ++ ds) = some (cs, ds) := by
  induction cs with
  | nil => simp [splitAtWidth]
  | cons c cs ih =>
    have hpos := c.utf8Size_pos
    obtain ⟨n, hn⟩ : ∃ n, c.utf8Size + width cs = n + 1 := ⟨c.utf8Size + width cs - 1, by omega⟩
    rw [width_cons, List.cons_append, hn, splitAtWidth, if_pos (by omega), ← hn,
      show c.utf8Size + width cs - c.utf8Size = width cs by omega, ih]
    rfl

theorem splitAtWidth_eq_some_iff {n : Nat} {cs before after : List Char} :
    splitAtWidth n cs = some (before, after) ↔ cs = before ++ after ∧ width before = n := by
  constructor
  · intro h
    induction cs generalizing n before with
    | nil =>
      cases n with
      | zero => simp_all [splitAtWidth]
      | succ n => simp [splitAtWidth] at h
    | cons c cs ih =>
      cases n with
      | zero =>
        simp only [splitAtWidth, Option.some.injEq, Prod.mk.injEq] at h
        obtain ⟨rfl, rfl⟩ := h
        simp
      | succ n =>
        rw [splitAtWidth] at h
        split at h
        · rename_i hc
          obtain ⟨⟨first, second⟩, hsplit, heq⟩ := Option.map_eq_some_iff.1 h
          obtain ⟨rfl, rfl⟩ := Prod.mk.injEq .. ▸ heq
          obtain ⟨rfl, hwidth⟩ := ih hsplit
          exact ⟨rfl, by rw [width_cons, hwidth]; omega⟩
        · simp at h
  · rintro ⟨rfl, rfl⟩
    exact splitAtWidth_width_append before after

end MigrationScript
