import MigrationScript.Proofs.Tree.Grammar
import MigrationScript.Tree.Parser

namespace MigrationScript

namespace Cursor

/-- The kinds of the tokens still to be read. -/
def kinds (cursor : Cursor) : List TokenKind :=
  cursor.rest.map (·.kind)

/-- What lies behind the tokens is the end of the input. -/
def Ends (cursor : Cursor) : Prop :=
  cursor.finish.kind = .endOfInput

/-- The tokens that are left have the given kinds, and the end lies behind them. -/
structure At (cursor : Cursor) (kinds : List TokenKind) : Prop where
  ends : cursor.Ends
  kinds_eq : cursor.kinds = kinds

/-- Reading tokens of the given kinds leads from one place to another. -/
structure Reads (before : Cursor) (kinds : List TokenKind) (after : Cursor) : Prop where
  finish_eq : after.finish = before.finish
  rest_eq : ∃ read : List Token, before.rest = read ++ after.rest ∧ read.map (·.kind) = kinds

variable {cursor before middle after : Cursor} {first second : List TokenKind}

theorem kind_current (h : cursor.Ends) : cursor.current.kind = nextKind cursor.kinds := by
  obtain ⟨rest, finish, previous⟩ := cursor
  cases rest with
  | nil => exact h
  | cons token rest => rfl

theorem kind_ahead (h : cursor.Ends) : cursor.ahead.kind = nextKind cursor.kinds.tail := by
  obtain ⟨rest, finish, previous⟩ := cursor
  rcases rest with - | ⟨token, - | ⟨behind, rest⟩⟩
  · exact h
  · exact h
  · rfl

@[simp]
theorem finish_advance (cursor : Cursor) : cursor.advance.finish = cursor.finish := by
  obtain ⟨rest, finish, previous⟩ := cursor
  cases rest <;> rfl

@[simp]
theorem rest_advance (cursor : Cursor) : cursor.advance.rest = cursor.rest.tail := by
  obtain ⟨rest, finish, previous⟩ := cursor
  cases rest <;> rfl

@[simp]
theorem length_kinds (cursor : Cursor) : cursor.kinds.length = cursor.rest.length :=
  List.length_map _

theorem At.kind_current (h : cursor.At first) : cursor.current.kind = nextKind first := by
  rw [Cursor.kind_current h.ends, h.kinds_eq]

theorem At.kind_ahead (h : cursor.At first) : cursor.ahead.kind = nextKind first.tail := by
  rw [Cursor.kind_ahead h.ends, h.kinds_eq]

theorem At.advance {kind : TokenKind} (h : cursor.At (kind :: first)) :
    cursor.advance.At first := by
  refine ⟨(congrArg Token.kind (finish_advance cursor)).trans h.ends, ?_⟩
  have hkinds := h.kinds_eq
  rw [kinds] at hkinds
  rw [kinds, rest_advance, List.map_tail, hkinds, List.tail_cons]

theorem At.length_rest (h : cursor.At first) : cursor.rest.length = first.length := by
  rw [← length_kinds, h.kinds_eq]

theorem Reads.refl (cursor : Cursor) : cursor.Reads [] cursor :=
  ⟨rfl, [], rfl, rfl⟩

theorem Reads.trans (hfirst : before.Reads first middle) (hsecond : middle.Reads second after) :
    before.Reads (first ++ second) after := by
  obtain ⟨hfinish, read, hread, rfl⟩ := hfirst
  obtain ⟨hfinish', read', hread', rfl⟩ := hsecond
  refine ⟨hfinish'.trans hfinish, read ++ read', ?_, List.map_append⟩
  rw [hread, hread', List.append_assoc]

theorem Reads.ends (h : before.Reads first after) (hends : before.Ends) : after.Ends := by
  rw [Ends, h.finish_eq]
  exact hends

theorem Reads.kinds_eq (h : before.Reads first after) : before.kinds = first ++ after.kinds := by
  obtain ⟨-, read, hread, rfl⟩ := h
  rw [kinds, hread, List.map_append, kinds]

theorem Reads.length_rest (h : before.Reads first after) :
    before.rest.length = first.length + after.rest.length := by
  obtain ⟨-, read, hread, rfl⟩ := h
  rw [hread, List.length_append, List.length_map]

/-- Only a token can be read; at the end there is none. -/
theorem reads_advance (hends : cursor.Ends) (h : cursor.current.kind ≠ .endOfInput) :
    cursor.Reads [cursor.current.kind] cursor.advance := by
  obtain ⟨rest, finish, previous⟩ := cursor
  cases rest with
  | nil => exact absurd hends h
  | cons token rest => exact ⟨rfl, [token], rfl, rfl⟩

theorem isAt_iff {mark : Punctuation} :
    cursor.isAt mark = true ↔ cursor.current.kind = .punctuation mark :=
  beq_iff_eq

end Cursor

namespace Parser

variable {α β : Type} {parser : Parser α} {further : α → Parser β} {before middle after : Cursor}

/-! ### Steps -/

theorem get_bind (further : Cursor → Parser β) :
    (get >>= further) before = further before before := rfl

theorem bind_of_ok {value : α} (h : parser before = .ok value middle) :
    (parser >>= further) before = further value middle := by
  show EStateM.bind parser further before = _
  rw [EStateM.bind, h]

theorem bind_of_error {error : ParseError} (h : parser before = .error error middle) :
    (parser >>= further) before = .error error middle := by
  show EStateM.bind parser further before = _
  rw [EStateM.bind, h]

theorem bind_eq_ok {value : β} :
    (parser >>= further) before = .ok value after ↔
      ∃ first middle, parser before = .ok first middle ∧
        further first middle = .ok value after := by
  cases h : parser before with
  | ok first middle =>
    rw [bind_of_ok h]
    constructor
    · exact fun hvalue => ⟨first, middle, rfl, hvalue⟩
    · rintro ⟨first', middle', heq, hvalue⟩
      cases heq
      exact hvalue
  | error error middle =>
    rw [bind_of_error h]
    constructor
    · intro hvalue
      cases hvalue
    · rintro ⟨first', middle', heq, -⟩
      cases heq

theorem pure_eq_ok {value result : α} :
    (pure value : Parser α) before = .ok result after ↔ value = result ∧ before = after := by
  show EStateM.Result.ok value before = _ ↔ _
  rw [EStateM.Result.ok.injEq]

theorem expected_ne_ok {expectation : Expectation} {value : α} :
    expected expectation before ≠ .ok value after := by
  intro h
  cases h

/-! ### One token -/

theorem advance_eq (cursor : Cursor) : advance cursor = .ok () cursor.advance := rfl

theorem expect_of_kind {mark : Punctuation} (h : before.current.kind = .punctuation mark) :
    expect mark before = .ok () before.advance := by
  rw [expect, get_bind, if_pos (Cursor.isAt_iff.mpr h), advance_eq]

theorem kind_of_expect {mark : Punctuation} (h : expect mark before = .ok () after) :
    before.current.kind = .punctuation mark := by
  rw [expect, get_bind] at h
  split at h
  · rename_i hat
    exact Cursor.isAt_iff.mp hat
  · exact absurd h expected_ne_ok

theorem skip_of_kind {mark : Punctuation} (h : before.current.kind = .punctuation mark) :
    skip mark before = .ok true before.advance := by
  rw [skip, get_bind, if_pos (Cursor.isAt_iff.mpr h), bind_of_ok (advance_eq before)]
  rfl

theorem skip_of_kind_ne {mark : Punctuation} (h : before.current.kind ≠ .punctuation mark) :
    skip mark before = .ok false before := by
  rw [skip, get_bind, if_neg (mt Cursor.isAt_iff.mp h)]
  rfl

theorem identifier_of_kind {name : String} (h : before.current.kind = .identifier name) :
    identifier before = .ok name before.advance := by
  rw [identifier, get_bind, h]
  rfl

theorem kind_of_identifier {name : String} (h : identifier before = .ok name after) :
    before.current.kind = .identifier name := by
  rw [identifier, get_bind] at h
  cases hkind : before.current.kind with
  | identifier found =>
    rw [hkind] at h
    obtain ⟨_, _, _, hpure⟩ := bind_eq_ok.mp h
    rw [(pure_eq_ok.mp hpure).1]
  | _ =>
    rw [hkind] at h
    exact absurd h expected_ne_ok

/-- A name and a mark stand at the front of the tokens that are left. -/
def Labelled (mark : Punctuation) (name : String) (cursor : Cursor) : Prop :=
  cursor.current.kind = .identifier name ∧ cursor.ahead.kind = .punctuation mark

theorem label_of_labelled {mark : Punctuation} {name : String} (h : Labelled mark name before) :
    label mark before = .ok (some name) before.advance.advance := by
  rw [label, get_bind, get_bind, h.1, h.2, beq_self_eq_true]
  rfl

theorem label_of_not_labelled {mark : Punctuation} (h : ∀ name, ¬ Labelled mark name before) :
    label mark before = .ok none before := by
  rw [label, get_bind, get_bind]
  cases hkind : before.current.kind with
  | identifier name =>
    have hahead : (before.ahead.kind == .punctuation mark) = false :=
      beq_eq_false_iff_ne.mpr fun heq => h name ⟨hkind, heq⟩
    rw [hahead]
    rfl
  | _ => rfl

theorem number_of_kind {negative : Bool} {unsigned : Constant}
    (h : NumberForm before.current.kind unsigned) :
    number negative before =
      .ok (if negative then unsigned.negate else unsigned) before.advance := by
  rw [number, get_bind]
  cases hkind : before.current.kind <;> rw [hkind] at h <;> cases h <;> cases negative <;> rfl

theorem spanFrom_eq (start : Span) (cursor : Cursor) :
    spanFrom start cursor = .ok (cursor.spanFrom start) cursor := rfl

theorem fuel_eq (cursor : Cursor) : fuel cursor = .ok (cursor.rest.length + 1) cursor := rfl

end Parser

end MigrationScript
