import MigrationScript.Proofs.Tree.Spans
import MigrationScript.Token.Basic

/-!
# The grammar of scripts

Which kinds of tokens spell which tree. The trees of the grammar have no spans, since the kinds do
not say where they stand.
-/

namespace MigrationScript

/-- Which kinds of tokens, one behind the other, spell what. -/
abbrev Form (α : Type) := List TokenKind → α → Prop

/-- The form of what is seen under a view. -/
def Form.under {α β : Type} (form : Form β) (view : α → β) : Form α :=
  fun kinds value => form kinds (view value)

section Lists

variable {α : Type}

/-- Any number of items. -/
inductive Repeated (item : Form α) : Form (List α)
  | nil : Repeated item [] []
  | cons {kinds rest : List TokenKind} {first : α} {others : List α} :
    item kinds first → Repeated item rest others → Repeated item (kinds ++ rest) (first :: others)

/-- One item or more with commas between them. -/
inductive Separated (item : Form α) : Form (List α)
  | last {kinds : List TokenKind} {only : α} : item kinds only → Separated item kinds [only]
  | cons {kinds rest : List TokenKind} {first : α} {others : List α} :
    item kinds first → Separated item rest others →
      Separated item (kinds ++ .punctuation .comma :: rest) (first :: others)

/-- Any number of items with commas between them; a comma may stand behind the last one. -/
inductive Listed (item : Form α) : Form (List α)
  | nil : Listed item [] []
  | separated {kinds : List TokenKind} {items : List α} :
    Separated item kinds items → Listed item kinds items
  | trailing {kinds : List TokenKind} {items : List α} :
    Separated item kinds items → Listed item (kinds ++ [.punctuation .comma]) items

/-! The same kinds spell the items under a view of them. -/

theorem Repeated.map {β : Type} {item : Form β} {view : α → β} {kinds : List TokenKind}
    {items : List α} (h : Repeated (item.under view) kinds items) :
    Repeated item kinds (items.map view) := by
  induction h with
  | nil => exact .nil
  | cons hfirst _ ih => exact .cons hfirst ih

theorem Separated.map {β : Type} {item : Form β} {view : α → β} {kinds : List TokenKind}
    {items : List α} (h : Separated (item.under view) kinds items) :
    Separated item kinds (items.map view) := by
  induction h with
  | last hlast => exact .last hlast
  | cons hfirst _ ih => exact .cons hfirst ih

theorem Listed.map {β : Type} {item : Form β} {view : α → β} {kinds : List TokenKind}
    {items : List α} (h : Listed (item.under view) kinds items) :
    Listed item kinds (items.map view) := by
  cases h with
  | nil => exact .nil
  | separated h => exact .separated h.map
  | trailing h => exact .trailing h.map

theorem Listed.cons {item : Form α} {kinds rest : List TokenKind} {first : α} {others : List α}
    (hfirst : item kinds first) (hothers : Listed item rest others) :
    Listed item (kinds ++ .punctuation .comma :: rest) (first :: others) := by
  cases hothers with
  | nil => exact .trailing (.last hfirst)
  | separated h => exact .separated (.cons hfirst h)
  | trailing h =>
    rw [← List.cons_append, ← List.append_assoc]
    exact .trailing (.cons hfirst h)

end Lists

/-- Names with points between them. -/
inductive PathForm : Form (List String)
  | last {name : String} : PathForm [.identifier name] [name]
  | cons {name : String} {kinds : List TokenKind} {names : List String} :
    PathForm kinds names →
      PathForm (.identifier name :: .punctuation .dot :: kinds) (name :: names)

/-- A number without its sign. -/
inductive NumberForm : TokenKind → Constant → Prop
  | integer {value : Nat} : NumberForm (.integer value) (.integer value false)
  | long {value : Nat} : NumberForm (.long value) (.integer value true)
  | double {value : Double} : NumberForm (.double value) (.double value)

/-- The number under the other sign. -/
def Constant.negate : Constant → Constant
  | .integer value isLong => .integer (-value) isLong
  | .double value => .double value.negate
  | constant => constant

section Nested

variable (expr : Form Expr)

/-- A value, with or without the name of its parameter. -/
inductive ArgumentForm : Form Argument
  | positional {kinds : List TokenKind} {value : Expr} :
    expr kinds value → ArgumentForm kinds ⟨none, value, default⟩
  | named {name : String} {kinds : List TokenKind} {value : Expr} :
    expr kinds value →
      ArgumentForm (.identifier name :: .punctuation .colon :: kinds) ⟨some name, value, default⟩

/-- A value under a name, or a path. -/
inductive MemberForm : Form Member
  | named {name : String} {kinds : List TokenKind} {value : Expr} :
    expr kinds value →
      MemberForm (.identifier name :: .punctuation .equals :: kinds) (.named name value default)
  | path {kinds : List TokenKind} {segments : List String} :
    PathForm kinds segments → MemberForm kinds (.path segments default)

/-- The kinds of a call with the kinds of its arguments. -/
def callKinds (target method : String) (arguments : List TokenKind) : List TokenKind :=
  .identifier target :: .punctuation .dot :: .identifier method :: .punctuation .leftParen ::
    (arguments ++ [.punctuation .rightParen])

/-- A call, with arguments or without. -/
inductive CallForm : Form Call
  | bare {target method : String} :
    CallForm (callKinds target method []) ⟨target, method, [], default⟩
  | arguments {target method : String} {kinds : List TokenKind} {arguments : List Argument} :
    Separated (ArgumentForm expr) kinds arguments →
      CallForm (callKinds target method kinds) ⟨target, method, arguments, default⟩

/-- A call with a semicolon behind it. -/
inductive StatementForm : Form Call
  | call {kinds : List TokenKind} {call : Call} :
    CallForm expr kinds call → StatementForm (kinds ++ [.punctuation .semicolon]) call

end Nested

/-- The kinds of an array with the kinds of its items. -/
def arrayKinds (items : List TokenKind) : List TokenKind :=
  .keyword .new :: .punctuation .leftBracket :: .punctuation .rightBracket ::
    .punctuation .leftBrace :: (items ++ [.punctuation .rightBrace])

/-- The kinds of an object with the kinds of its members. -/
def objectKinds (members : List TokenKind) : List TokenKind :=
  .keyword .new :: .punctuation .leftBrace :: (members ++ [.punctuation .rightBrace])

/-- The kinds of a function with the kinds of its body. -/
def functionKinds (parameter : String) (body : List TokenKind) : List TokenKind :=
  .identifier parameter :: .punctuation .arrow :: body

/-- The kinds of a function with the kinds of the statements in its block. -/
def blockKinds (parameter : String) (statements : List TokenKind) : List TokenKind :=
  functionKinds parameter
    (.punctuation .leftBrace :: (statements ++ [.punctuation .rightBrace]))

inductive ExprForm : Form Expr
  | string {value : String} : ExprForm [.string value] (.constant (.string value) default)
  | number {kind : TokenKind} {value : Constant} :
    NumberForm kind value → ExprForm [kind] (.constant value default)
  | negative {kind : TokenKind} {value : Constant} :
    NumberForm kind value → ExprForm [.punctuation .minus, kind] (.constant value.negate default)
  | true : ExprForm [.keyword .true] (.constant (.bool true) default)
  | false : ExprForm [.keyword .false] (.constant (.bool false) default)
  | null : ExprForm [.keyword .null] (.constant .null default)
  | array {kinds : List TokenKind} {items : List Expr} :
    Listed ExprForm kinds items → ExprForm (arrayKinds kinds) (.array items default)
  | object {kinds : List TokenKind} {members : List Member} :
    Listed (MemberForm ExprForm) kinds members →
      ExprForm (objectKinds kinds) (.object members default)
  | function {parameter : String} {kinds : List TokenKind} {body : Expr} :
    ExprForm kinds body →
      ExprForm (functionKinds parameter kinds) (.function parameter body default)
  | block {parameter : String} {kinds : List TokenKind} {statements : List Call} :
    Repeated (StatementForm ExprForm) kinds statements →
      ExprForm (blockKinds parameter kinds) (.block parameter statements default)
  | path {kinds : List TokenKind} {segments : List String} :
    PathForm kinds segments → ExprForm kinds (.path segments default)
  | call {kinds : List TokenKind} {nested : Call} :
    CallForm ExprForm kinds nested → ExprForm kinds (.call nested)

theorem CallForm.kinds_eq {expr : Form Expr} {kinds : List TokenKind} {call : Call}
    (h : CallForm expr kinds call) :
    ∃ target method arguments, kinds = callKinds target method arguments := by
  cases h <;> exact ⟨_, _, _, rfl⟩

/-- A call is told by its target, its method and the kinds of its arguments. -/
theorem CallForm.of_callKinds {expr : Form Expr} {target method : String}
    {kinds : List TokenKind} {call : Call}
    (h : CallForm expr (callKinds target method kinds) call) :
    (kinds = [] ∧ call = ⟨target, method, [], default⟩) ∨
      ∃ arguments, Separated (ArgumentForm expr) kinds arguments ∧
        call = ⟨target, method, arguments, default⟩ := by
  generalize hkinds : callKinds target method kinds = all at h
  cases h with
  | bare =>
    obtain ⟨rfl, rfl, rfl⟩ : target = _ ∧ method = _ ∧ kinds = [] := by
      simpa [callKinds] using hkinds
    exact .inl ⟨rfl, rfl⟩
  | arguments h =>
    obtain ⟨rfl, rfl, rfl⟩ : target = _ ∧ method = _ ∧ kinds = _ := by
      simpa [callKinds] using hkinds
    exact .inr ⟨_, h, rfl⟩

/-! ### No form is empty -/

theorem PathForm.length_names_le {kinds : List TokenKind} {names : List String}
    (h : PathForm kinds names) : names.length ≤ kinds.length := by
  induction h with
  | last => exact Nat.le_refl _
  | cons _ ih =>
    rw [List.length_cons, List.length_cons, List.length_cons]
    omega

theorem PathForm.ne_nil {kinds : List TokenKind} {names : List String} (h : PathForm kinds names) :
    kinds ≠ [] := by
  cases h <;> exact List.cons_ne_nil _ _

theorem CallForm.ne_nil {expr : Form Expr} {kinds : List TokenKind} {call : Call}
    (h : CallForm expr kinds call) : kinds ≠ [] := by
  cases h <;> exact List.cons_ne_nil _ _

theorem StatementForm.ne_nil {expr : Form Expr} {kinds : List TokenKind} {call : Call}
    (h : StatementForm expr kinds call) : kinds ≠ [] := by
  cases h
  exact List.append_ne_nil_of_right_ne_nil _ (List.cons_ne_nil _ _)

theorem ExprForm.ne_nil {kinds : List TokenKind} {expr : Expr} (h : ExprForm kinds expr) :
    kinds ≠ [] := by
  cases h with
  | path h => exact h.ne_nil
  | call h => exact h.ne_nil
  | _ => exact List.cons_ne_nil _ _

theorem ArgumentForm.ne_nil {kinds : List TokenKind} {argument : Argument}
    (h : ArgumentForm ExprForm kinds argument) : kinds ≠ [] := by
  cases h with
  | positional h => exact h.ne_nil
  | named h => exact List.cons_ne_nil _ _

theorem MemberForm.ne_nil {expr : Form Expr} {kinds : List TokenKind} {member : Member}
    (h : MemberForm expr kinds member) : kinds ≠ [] := by
  cases h with
  | named h => exact List.cons_ne_nil _ _
  | path h => exact h.ne_nil

/-! ### How a form starts -/

/-- The kind of the token to be read next; behind the last one the input ends. -/
def nextKind (kinds : List TokenKind) : TokenKind :=
  kinds.headD .endOfInput

section Front

variable {kinds rest : List TokenKind}

theorem PathForm.nextKind_tail {names : List String} (h : PathForm kinds names)
    (rest : List TokenKind) :
    nextKind (kinds ++ rest).tail = .punctuation .dot ∨ (kinds ++ rest).tail = rest := by
  cases h with
  | last => exact .inr rfl
  | cons h => exact .inl rfl

/-- An expression that starts with a name goes on as a path, a call or a function, or ends there. -/
theorem ExprForm.nextKind_tail {expr : Expr} (h : ExprForm kinds expr) {name : String}
    (hname : nextKind (kinds ++ rest) = .identifier name) :
    nextKind (kinds ++ rest).tail = .punctuation .dot ∨
      nextKind (kinds ++ rest).tail = .punctuation .arrow ∨ (kinds ++ rest).tail = rest := by
  cases h with
  | path h =>
    rcases h.nextKind_tail rest with h | h
    · exact .inl h
    · exact .inr (.inr h)
  | call h =>
    cases h with
    | bare => exact .inl rfl
    | arguments h => exact .inl rfl
  | function h => exact .inr (.inl rfl)
  | block h => exact .inr (.inl rfl)
  | number h => exact .inr (.inr rfl)
  | string | negative | true | false | null => cases hname
  | array | object => cases hname

theorem ExprForm.nextKind_ne {expr : Expr} (h : ExprForm kinds expr) {mark : Punctuation}
    (hmark : mark ≠ .minus) : nextKind (kinds ++ rest) ≠ .punctuation mark := by
  cases h with
  | path h => cases h <;> simp [nextKind]
  | call h => cases h <;> simp [nextKind, callKinds]
  | number h => cases h <;> simp [nextKind]
  | negative h => simpa [nextKind] using Ne.symm hmark
  | _ => simp [nextKind, arrayKinds, objectKinds, functionKinds, blockKinds]

theorem ArgumentForm.nextKind_ne {argument : Argument} (h : ArgumentForm ExprForm kinds argument)
    {mark : Punctuation} (hmark : mark ≠ .minus) :
    nextKind (kinds ++ rest) ≠ .punctuation mark := by
  cases h with
  | positional h => exact h.nextKind_ne hmark
  | named h => simp [nextKind]

theorem Separated.nextKind_ne {α : Type} {item : Form α} {items : List α}
    (h : Separated item kinds items) {mark : Punctuation}
    (hitem : ∀ {kinds rest value}, item kinds value →
      nextKind (kinds ++ rest) ≠ .punctuation mark) :
    nextKind (kinds ++ rest) ≠ .punctuation mark := by
  cases h with
  | last h => exact hitem h
  | cons h _ =>
    rw [List.append_assoc]
    exact hitem h

theorem MemberForm.nextKind_ne {expr : Form Expr} {member : Member}
    (h : MemberForm expr kinds member) {mark : Punctuation} :
    nextKind (kinds ++ rest) ≠ .punctuation mark := by
  cases h with
  | named h => simp [nextKind]
  | path h => cases h <;> simp [nextKind]

theorem StatementForm.nextKind_ne {expr : Form Expr} {call : Call}
    (h : StatementForm expr kinds call) {mark : Punctuation} :
    nextKind (kinds ++ rest) ≠ .punctuation mark := by
  cases h with
  | call h => cases h <;> simp [nextKind, callKinds]

end Front

/-- A whole script. -/
abbrev ProgramForm : Form (List Call) :=
  Repeated (StatementForm ExprForm)

end MigrationScript
