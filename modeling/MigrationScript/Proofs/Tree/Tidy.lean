import Mathlib.Data.List.Chain
import MigrationScript.Proofs.Tree.Grammar

namespace MigrationScript

structure Tidy (kinds : List TokenKind) : Prop where
  valid : ∀ error, .invalid error ∉ kinds
  apart : kinds.IsChain fun first second =>
    first = .punctuation .comma → second ≠ .punctuation .rightParen

/-- In front of tidy kinds every spelling of at most the given length is tidy. -/
def KeepsTidy {α : Type} (form : Form α) (length : Nat) : Prop :=
  ∀ ⦃kinds value rest⦄, form kinds value → kinds.length ≤ length → Tidy rest → Tidy (kinds ++ rest)

theorem tidy_nil : Tidy [] :=
  ⟨fun _ => List.not_mem_nil, .nil⟩

theorem Tidy.cons {kind : TokenKind} {rest : List TokenKind}
    (hvalid : ∀ error, kind ≠ .invalid error)
    (hcomma : kind = .punctuation .comma → nextKind rest ≠ .punctuation .rightParen)
    (h : Tidy rest) : Tidy (kind :: rest) := by
  refine ⟨fun error hmem => ?_, List.isChain_cons.mpr ⟨fun second hsecond hkind => ?_, h.apart⟩⟩
  · rcases List.mem_cons.mp hmem with heq | hmem
    · exact hvalid error heq.symm
    · exact h.valid error hmem
  · have hnext : nextKind rest = second := by
      rw [nextKind, List.headD_eq_head?_getD, hsecond, Option.getD_some]
    exact hnext ▸ hcomma hkind

/-- Neither a comma nor text that is no token. -/
def TokenKind.IsPlain : TokenKind → Prop
  | .punctuation .comma | .invalid _ => False
  | _ => True

theorem Tidy.plain {kind : TokenKind} {rest : List TokenKind} (hkind : kind.IsPlain)
    (h : Tidy rest) : Tidy (kind :: rest) := by
  refine .cons ?_ ?_ h
  · rintro error rfl
    exact hkind
  · rintro rfl
    exact absurd hkind not_false

section Lists

variable {α : Type} {item : Form α} {kinds rest : List TokenKind} {items : List α} {length : Nat}

theorem Tidy.separated (hitem : KeepsTidy item length)
    (hfront : ∀ {kinds rest value}, item kinds value →
      nextKind (kinds ++ rest) ≠ .punctuation .rightParen)
    (h : Separated item kinds items) (hlength : kinds.length ≤ length) (hrest : Tidy rest) :
    Tidy (kinds ++ rest) := by
  induction h with
  | last hlast => exact hitem hlast hlength hrest
  | cons hfirst hothers ih =>
    rw [List.length_append, List.length_cons] at hlength
    rw [List.append_assoc, List.cons_append]
    refine hitem hfirst (by omega) (.cons (by simp) (fun _ => ?_) (ih (by omega)))
    exact hothers.nextKind_ne hfront

theorem Tidy.listed (hitem : KeepsTidy item length)
    (hfront : ∀ {kinds rest value}, item kinds value →
      nextKind (kinds ++ rest) ≠ .punctuation .rightParen)
    (h : Listed item kinds items) (hlength : kinds.length ≤ length) (hrest : Tidy rest)
    (hnext : nextKind rest ≠ .punctuation .rightParen) : Tidy (kinds ++ rest) := by
  cases h with
  | nil => exact hrest
  | separated h => exact .separated hitem hfront h hlength hrest
  | trailing h =>
    rw [List.length_append] at hlength
    rw [List.append_assoc]
    exact .separated hitem hfront h (by omega) (.cons (by simp) (fun _ => hnext) hrest)

theorem Tidy.repeated (hitem : KeepsTidy item length) (h : Repeated item kinds items)
    (hlength : kinds.length ≤ length) (hrest : Tidy rest) : Tidy (kinds ++ rest) := by
  induction h with
  | nil => exact hrest
  | cons hfirst _ ih =>
    rw [List.length_append] at hlength
    rw [List.append_assoc]
    exact hitem hfirst (by omega) (ih (by omega))

end Lists

theorem keepsTidy_path (length : Nat) : KeepsTidy PathForm length := by
  intro kinds names rest h hlength hrest
  clear hlength
  induction h with
  | last => exact .plain trivial hrest
  | cons _ ih => exact .plain trivial (.plain trivial ih)

section Nested

variable {length : Nat} (hexpr : KeepsTidy ExprForm length)

include hexpr

theorem keepsTidy_argument : KeepsTidy (ArgumentForm ExprForm) length := by
  intro kinds argument rest h hlength hrest
  cases h with
  | positional h => exact hexpr h hlength hrest
  | named h =>
    rw [List.length_cons, List.length_cons] at hlength
    exact .plain trivial (.plain trivial (hexpr h (by omega) hrest))

theorem keepsTidy_member : KeepsTidy (MemberForm ExprForm) length := by
  intro kinds member rest h hlength hrest
  cases h with
  | named h =>
    rw [List.length_cons, List.length_cons] at hlength
    exact .plain trivial (.plain trivial (hexpr h (by omega) hrest))
  | path h => exact keepsTidy_path length h hlength hrest

theorem keepsTidy_call : KeepsTidy (CallForm ExprForm) (length + 1) := by
  intro kinds call rest h hlength hrest
  obtain ⟨target, method, arguments, rfl⟩ := h.kinds_eq
  have hclosed : Tidy (.punctuation .rightParen :: rest) := .plain trivial hrest
  have harguments : Tidy (arguments ++ .punctuation .rightParen :: rest) := by
    rcases h.of_callKinds with ⟨rfl, -⟩ | ⟨items, hitems, -⟩
    · exact hclosed
    · simp only [callKinds, List.length_cons, List.length_append] at hlength
      exact .separated (keepsTidy_argument hexpr) (fun h => h.nextKind_ne (by decide)) hitems
        (by omega) hclosed
  simp only [callKinds, List.cons_append, List.append_assoc, List.nil_append]
  refine .plain trivial (.plain trivial ?_)
  exact .plain trivial (.plain trivial harguments)

theorem keepsTidy_statement : KeepsTidy (StatementForm ExprForm) (length + 1) := by
  intro kinds call rest h hlength hrest
  cases h with
  | call h =>
    rw [List.length_append] at hlength
    rw [List.append_assoc]
    exact keepsTidy_call hexpr h (by omega) (.plain trivial hrest)

end Nested

theorem keepsTidy_expr (length : Nat) : KeepsTidy ExprForm length := by
  induction length with
  | zero => exact fun _ _ _ h hlength _ =>
      absurd (List.length_eq_zero_iff.mp (Nat.le_zero.mp hlength)) h.ne_nil
  | succ length ih =>
    intro kinds expr rest h hlength hrest
    cases h with
    | string | true | false | null => exact .plain trivial hrest
    | number h => cases h <;> exact .plain trivial hrest
    | negative h =>
      refine .plain trivial ?_
      cases h <;> exact .plain trivial hrest
    | array h =>
      simp only [arrayKinds, List.length_cons, List.length_append] at hlength
      simp only [arrayKinds, List.cons_append, List.append_assoc, List.nil_append]
      refine .plain trivial (.plain trivial ?_)
      refine .plain trivial (.plain trivial ?_)
      exact .listed ih (fun h => h.nextKind_ne (by decide)) h (by omega)
        (.plain trivial hrest) (by simp [nextKind])
    | object h =>
      simp only [objectKinds, List.length_cons, List.length_append] at hlength
      simp only [objectKinds, List.cons_append, List.append_assoc, List.nil_append]
      refine .plain trivial (.plain trivial ?_)
      exact .listed (keepsTidy_member ih) (fun h => h.nextKind_ne) h (by omega)
        (.plain trivial hrest) (by simp [nextKind])
    | function h =>
      rw [functionKinds, List.length_cons, List.length_cons] at hlength
      exact .plain trivial (.plain trivial (ih h (by omega) hrest))
    | block h =>
      simp only [blockKinds, functionKinds, List.length_cons, List.length_append] at hlength
      simp only [blockKinds, functionKinds, List.cons_append, List.append_assoc, List.nil_append]
      refine .plain trivial (.plain trivial (.plain trivial ?_))
      exact .repeated (keepsTidy_statement ih) h (by omega) (.plain trivial hrest)
    | path h => exact keepsTidy_path _ h hlength hrest
    | call h => exact keepsTidy_call ih h hlength hrest

theorem tidy_of_programForm {kinds : List TokenKind} {statements : List Call}
    (h : ProgramForm kinds statements) : Tidy kinds := by
  have htidy := Tidy.repeated (keepsTidy_statement (keepsTidy_expr kinds.length)) h
    (Nat.le_succ _) tidy_nil
  rwa [List.append_nil] at htidy

end MigrationScript
