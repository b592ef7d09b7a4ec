import MigrationScript.Proofs.Tree.Reading

/-!
# Every derivation is read

The induction is on the length of a spelling, since an expression holds others. What may stand
behind a form is said beside it: a list goes on at a comma, and a path at a point or a parenthesis.
-/

namespace MigrationScript

namespace Parser

variable {α β : Type} {parser : Parser α} {further : α → Parser β}
  {first second third kinds rest : List TokenKind} {good : α → Prop} {good' : β → Prop}

/-- Wherever tokens of the first kinds are left the reader succeeds with a good result, and those of
the second kinds are left behind it. -/
def Completes (parser : Parser α) (first second : List TokenKind) (good : α → Prop) : Prop :=
  ∀ ⦃before : Cursor⦄, before.At first →
    ∃ value after, parser before = .ok value after ∧ good value ∧ after.At second

/-! ### Steps -/

theorem Completes.bind (h : Completes parser first second good)
    (hfurther : ∀ value, good value → Completes (further value) second third good') :
    Completes (parser >>= further) first third good' := by
  intro before hat
  obtain ⟨value, middle, hvalue, hgood, hmiddle⟩ := h hat
  obtain ⟨result, after, hresult, hgood', hafter⟩ := hfurther value hgood hmiddle
  exact ⟨result, after, (bind_of_ok hvalue).trans hresult, hgood', hafter⟩

theorem Completes.get_bind {further : Cursor → Parser β}
    (h : ∀ cursor, cursor.At first → Completes (further cursor) first second good') :
    Completes (get >>= further) first second good' := by
  intro before hat
  exact h before hat hat

theorem Completes.pure {value : α} (h : good value) : Completes (pure value) first first good :=
  fun before hat => ⟨value, before, rfl, h, hat⟩

theorem Completes.mono {weaker : α → Prop} (h : Completes parser first second good)
    (himp : ∀ value, good value → weaker value) : Completes parser first second weaker := by
  intro before hat
  obtain ⟨value, after, hvalue, hgood, hafter⟩ := h hat
  exact ⟨value, after, hvalue, himp value hgood, hafter⟩

theorem completes_advance {kind : TokenKind} :
    Completes advance (kind :: kinds) kinds fun _ => True :=
  fun before hat => ⟨(), before.advance, rfl, trivial, hat.advance⟩

theorem completes_expect {mark : Punctuation} :
    Completes (expect mark) (.punctuation mark :: kinds) kinds fun _ => True :=
  fun before hat => ⟨(), before.advance, expect_of_kind hat.kind_current, trivial, hat.advance⟩

theorem completes_skip {mark : Punctuation} :
    Completes (skip mark) (.punctuation mark :: kinds) kinds (· = true) :=
  fun before hat => ⟨true, before.advance, skip_of_kind hat.kind_current, rfl, hat.advance⟩

theorem completes_skip_of_ne {mark : Punctuation} (h : nextKind kinds ≠ .punctuation mark) :
    Completes (skip mark) kinds kinds (· = false) :=
  fun before hat => ⟨false, before, skip_of_kind_ne (hat.kind_current ▸ h), rfl, hat⟩

theorem completes_identifier {name : String} :
    Completes identifier (.identifier name :: kinds) kinds (· = name) :=
  fun before hat => ⟨name, before.advance, identifier_of_kind hat.kind_current, rfl, hat.advance⟩

theorem completes_label {mark : Punctuation} {name : String} :
    Completes (label mark) (.identifier name :: .punctuation mark :: kinds) kinds
      (· = some name) :=
  fun before hat => ⟨some name, before.advance.advance,
    label_of_labelled ⟨hat.kind_current, hat.kind_ahead⟩, rfl, hat.advance.advance⟩

theorem completes_label_none {mark : Punctuation}
    (h : ∀ name, nextKind kinds = .identifier name → nextKind kinds.tail ≠ .punctuation mark) :
    Completes (label mark) kinds kinds (· = none) := by
  intro before hat
  refine ⟨none, before, label_of_not_labelled ?_, rfl, hat⟩
  rintro name ⟨hkind, hahead⟩
  rw [hat.kind_current] at hkind
  rw [hat.kind_ahead] at hahead
  exact h name hkind hahead

theorem completes_spanFrom {start : Span} :
    Completes (spanFrom start) kinds kinds fun _ => True :=
  fun before hat => ⟨_, before, spanFrom_eq start before, trivial, hat⟩

theorem completes_fuel : Completes fuel kinds kinds (· = kinds.length + 1) :=
  fun before hat => ⟨_, before, fuel_eq before, by rw [hat.length_rest], hat⟩

/-- Every spelling of at most the given length is read where one of the given kinds follows it. -/
def Covers (parser : Parser α) (form : Form β) (view : α → β) (follow : TokenKind → Prop)
    (length : Nat) : Prop :=
  ∀ ⦃kinds value rest⦄, form kinds value → kinds.length ≤ length → follow (nextKind rest) →
    Completes parser (kinds ++ rest) rest (view · = value)

/-! ### Lists -/

/-- The marks that stand behind an item of a list, or that end the list. -/
def Closes (kind : TokenKind) : Prop :=
  kind = .punctuation .comma ∨ kind = .punctuation .rightParen ∨ kind = .punctuation .rightBrace

section Lists

variable {item : Parser α} {form : Form β} {view : α → β} {items : List β} {bound length : Nat}

theorem length_le_of_separated (hne : ∀ {kinds value}, form kinds value → kinds ≠ [])
    (h : Separated form kinds items) : items.length ≤ kinds.length := by
  induction h with
  | last hlast => exact List.length_pos_iff.mpr (hne hlast)
  | cons hfirst _ ih =>
    rw [List.length_cons, List.length_append, List.length_cons]
    omega

theorem length_le_of_repeated (hne : ∀ {kinds value}, form kinds value → kinds ≠ [])
    (h : Repeated form kinds items) : items.length ≤ kinds.length := by
  induction h with
  | nil => exact Nat.le_refl _
  | cons hfirst _ ih =>
    have hpos := List.length_pos_iff.mpr (hne hfirst)
    rw [List.length_cons, List.length_append]
    omega

theorem length_le_of_listed (hne : ∀ {kinds value}, form kinds value → kinds ≠ [])
    (h : Listed form kinds items) : items.length ≤ kinds.length := by
  cases h with
  | nil => exact Nat.le_refl _
  | separated h => exact length_le_of_separated hne h
  | trailing h =>
    rw [List.length_append]
    exact Nat.le_add_right_of_le (length_le_of_separated hne h)

theorem completes_separated (hitem : Covers item form view Closes length)
    (h : Separated form kinds items) (hlength : kinds.length ≤ length)
    (hbound : items.length ≤ bound) (hnext : nextKind rest = .punctuation .rightParen) :
    Completes (separated item bound) (kinds ++ rest) rest (·.map view = items) := by
  induction h generalizing bound with
  | last hlast =>
    obtain ⟨bound, rfl⟩ := Nat.exists_eq_succ_of_ne_zero (Nat.ne_of_gt hbound)
    rw [separated]
    refine (hitem hlast hlength (.inr (.inl hnext))).bind fun first hfirst => ?_
    refine (completes_skip_of_ne (by rw [hnext]; simp)).bind fun found hfound => ?_
    rw [hfound]
    exact .pure (by rw [List.map_singleton, hfirst])
  | @cons kinds others first items hfirst _ ih =>
    obtain ⟨bound, rfl⟩ := Nat.exists_eq_succ_of_ne_zero (Nat.ne_of_gt (Nat.zero_lt_of_lt hbound))
    rw [List.length_append, List.length_cons] at hlength
    rw [separated, List.append_assoc, List.cons_append]
    refine (hitem hfirst (by omega) (.inl rfl)).bind fun read hread => ?_
    refine completes_skip.bind fun found hfound => ?_
    rw [hfound]
    refine (ih (by omega) (Nat.le_of_succ_le_succ hbound)).bind fun reads hreads => ?_
    exact .pure (by rw [List.map_cons, hread, hreads])

theorem completes_listed_nil (hnext : nextKind rest = .punctuation .rightBrace) :
    Completes (listed item bound) rest rest (· = []) := by
  cases bound with
  | zero => exact .pure rfl
  | succ bound =>
    rw [listed]
    refine .get_bind fun cursor hat => ?_
    rw [if_pos (by rw [Cursor.isAt_iff, hat.kind_current]; exact hnext)]
    exact .pure rfl

/-- Items behind which nothing but a closing brace is left, or a comma and a closing brace. -/
theorem completes_listed_of_separated (hitem : Covers item form view Closes length)
    (hfront : ∀ {kinds rest value}, form kinds value →
      nextKind (kinds ++ rest) ≠ .punctuation .rightBrace)
    (h : Separated form kinds items) {trail : List TokenKind}
    (htrail : trail = [] ∨ trail = [.punctuation .comma]) (hlength : kinds.length ≤ length)
    (hbound : items.length ≤ bound) (hnext : nextKind rest = .punctuation .rightBrace) :
    Completes (listed item bound) (kinds ++ (trail ++ rest)) rest (·.map view = items) := by
  induction h generalizing bound with
  | @last kinds only hlast =>
    obtain ⟨bound, rfl⟩ := Nat.exists_eq_succ_of_ne_zero (Nat.ne_of_gt hbound)
    rw [listed]
    refine .get_bind fun cursor hat => ?_
    rw [if_neg (by rw [Cursor.isAt_iff, hat.kind_current]; exact hfront hlast)]
    rcases htrail with rfl | rfl
    · refine (hitem hlast hlength (.inr (.inr hnext))).bind fun first hfirst => ?_
      refine (completes_skip_of_ne (by simp [hnext])).bind
        fun found hfound => ?_
      rw [hfound]
      exact .pure (by rw [List.map_singleton, hfirst])
    · refine (hitem hlast hlength (.inl rfl)).bind fun first hfirst => ?_
      refine completes_skip.bind fun found hfound => ?_
      rw [hfound]
      refine (completes_listed_nil hnext).bind fun others hothers => ?_
      exact .pure (by rw [hothers, List.map_singleton, hfirst])
  | @cons kinds others first items hfirst _ ih =>
    obtain ⟨bound, rfl⟩ := Nat.exists_eq_succ_of_ne_zero (Nat.ne_of_gt (Nat.zero_lt_of_lt hbound))
    rw [List.length_append, List.length_cons] at hlength
    rw [listed, List.append_assoc, List.cons_append]
    refine .get_bind fun cursor hat => ?_
    rw [if_neg (by rw [Cursor.isAt_iff, hat.kind_current]; exact hfront hfirst)]
    refine (hitem hfirst (by omega) (.inl rfl)).bind fun read hread => ?_
    refine completes_skip.bind fun found hfound => ?_
    rw [hfound]
    refine (ih (by omega) (Nat.le_of_succ_le_succ hbound)).bind fun reads hreads => ?_
    exact .pure (by rw [List.map_cons, hread, hreads])

theorem completes_listed (hitem : Covers item form view Closes length)
    (hfront : ∀ {kinds rest value}, form kinds value →
      nextKind (kinds ++ rest) ≠ .punctuation .rightBrace)
    (h : Listed form kinds items) (hlength : kinds.length ≤ length)
    (hbound : items.length ≤ bound) (hnext : nextKind rest = .punctuation .rightBrace) :
    Completes (listed item bound) (kinds ++ rest) rest (·.map view = items) := by
  cases h with
  | nil => exact (completes_listed_nil hnext).mono fun read hread => hread ▸ List.map_nil
  | separated h =>
    exact completes_listed_of_separated hitem hfront h (.inl rfl) hlength hbound hnext
  | trailing h =>
    rw [List.length_append] at hlength
    rw [List.append_assoc]
    exact completes_listed_of_separated hitem hfront h (.inr rfl) (by omega) hbound hnext

theorem completes_blockOf (hitem : Covers item form view (fun _ => True) length)
    (hne : ∀ {kinds value}, form kinds value → kinds ≠ [])
    (hfront : ∀ {kinds rest value}, form kinds value →
      nextKind (kinds ++ rest) ≠ .punctuation .rightBrace)
    (h : Repeated form kinds items) (hlength : kinds.length ≤ length)
    (hbound : items.length ≤ bound) (hnext : nextKind rest = .punctuation .rightBrace) :
    Completes (blockOf item bound) (kinds ++ rest) rest (·.map view = items) := by
  induction h generalizing bound with
  | nil =>
    cases bound with
    | zero => exact .pure rfl
    | succ bound =>
      rw [blockOf]
      refine .get_bind fun cursor hat => ?_
      rw [if_pos (by rw [Cursor.isAt_iff, hat.kind_current]; exact hnext)]
      exact .pure rfl
  | @cons kinds others first items hfirst _ ih =>
    obtain ⟨bound, rfl⟩ := Nat.exists_eq_succ_of_ne_zero (Nat.ne_of_gt (Nat.zero_lt_of_lt hbound))
    rw [List.length_append] at hlength
    rw [blockOf, List.append_assoc]
    refine .get_bind fun cursor hat => ?_
    rw [if_neg (by rw [Cursor.isAt_iff, hat.kind_current]; exact hfront hfirst)]
    refine .get_bind fun cursor hat => ?_
    rw [if_neg (by
      rw [List.isEmpty_iff_length_eq_zero, hat.length_rest, List.length_append]
      have := List.length_pos_iff.mpr (hne hfirst)
      omega)]
    refine (hitem hfirst (by omega) trivial).bind fun read hread => ?_
    refine (ih (by omega) (Nat.le_of_succ_le_succ hbound)).bind fun reads hreads => ?_
    exact .pure (by rw [List.map_cons, hread, hreads])

theorem completes_untilEnd (hitem : Covers item form view (fun _ => True) length)
    (hne : ∀ {kinds value}, form kinds value → kinds ≠ [])
    (h : Repeated form kinds items) (hlength : kinds.length ≤ length)
    (hbound : items.length ≤ bound) :
    Completes (untilEnd item bound) kinds [] (·.map view = items) := by
  induction h generalizing bound with
  | nil =>
    cases bound with
    | zero => exact .pure rfl
    | succ bound =>
      rw [untilEnd]
      refine .get_bind fun cursor hat => ?_
      rw [if_pos (by rw [List.isEmpty_iff_length_eq_zero, hat.length_rest, List.length_nil])]
      exact .pure rfl
  | @cons kinds others first items hfirst _ ih =>
    obtain ⟨bound, rfl⟩ := Nat.exists_eq_succ_of_ne_zero (Nat.ne_of_gt (Nat.zero_lt_of_lt hbound))
    rw [List.length_append] at hlength
    rw [untilEnd]
    refine .get_bind fun cursor hat => ?_
    rw [if_neg (by
      rw [List.isEmpty_iff_length_eq_zero, hat.length_rest, List.length_append]
      have := List.length_pos_iff.mpr (hne hfirst)
      omega)]
    refine (hitem hfirst (by omega) trivial).bind fun read hread => ?_
    refine (ih (by omega) (Nat.le_of_succ_le_succ hbound)).bind fun reads hreads => ?_
    exact .pure (by rw [List.map_cons, hread, hreads])

end Lists

/-! ### Productions -/

theorem completes_pathTail {names : List String} {name : String} {bound : Nat}
    (h : PathForm (.identifier name :: kinds) (name :: names)) (hbound : names.length ≤ bound)
    (hnext : nextKind rest ≠ .punctuation .dot) :
    Completes (pathTail bound) (kinds ++ rest) rest (· = names) := by
  induction names generalizing kinds name bound with
  | nil =>
    cases h with
    | last =>
      cases bound with
      | zero => exact .pure rfl
      | succ bound =>
        rw [pathTail]
        refine (completes_skip_of_ne hnext).bind fun found hfound => ?_
        rw [hfound]
        exact .pure rfl
    | cons h => cases h
  | cons second names ih =>
    obtain ⟨bound, rfl⟩ := Nat.exists_eq_succ_of_ne_zero (Nat.ne_of_gt (Nat.zero_lt_of_lt hbound))
    cases h with
    | @cons _ tail _ h =>
      obtain ⟨behind, rfl⟩ : ∃ behind, tail = .identifier second :: behind := by
        cases h <;> exact ⟨_, rfl⟩
      rw [pathTail]
      refine completes_skip.bind fun found hfound => ?_
      rw [hfound]
      refine completes_identifier.bind fun segment hsegment => ?_
      refine (ih h (Nat.le_of_succ_le_succ hbound)).bind fun others hothers => ?_
      exact .pure (by rw [hsegment, hothers])

theorem completes_path {names : List String} (h : PathForm kinds names)
    (hnext : nextKind rest ≠ .punctuation .dot) :
    Completes path (kinds ++ rest) rest (· = names) := by
  have hlength := PathForm.length_names_le h
  obtain ⟨name, tail, others, rfl, rfl⟩ :
      ∃ name tail others, kinds = .identifier name :: tail ∧ names = name :: others := by
    cases h <;> exact ⟨_, _, _, rfl, rfl⟩
  rw [List.length_cons, List.length_cons] at hlength
  rw [path, List.cons_append]
  refine completes_identifier.bind fun first hfirst => ?_
  refine completes_fuel.bind fun bound hbound => ?_
  refine (completes_pathTail h ?_ hnext).bind fun read hread => ?_
  · rw [hbound, List.length_append]
    omega
  · exact .pure (by rw [hfirst, hread])

section Nested

variable {expr : Parser Expr} {length : Nat}
  (hexpr : Covers expr ExprForm Expr.eraseSpans Closes length)

include hexpr

theorem covers_argument :
    Covers (argument expr) (ArgumentForm ExprForm) Argument.eraseSpans Closes length := by
  intro kinds value rest h hlength hrest
  rw [argument]
  refine .get_bind fun cursor _ => ?_
  cases h with
  | positional h =>
    refine (completes_label_none fun name hname => ?_).bind fun label hlabel => ?_
    · rcases h.nextKind_tail hname with htail | htail | htail
      · simp [htail]
      · simp [htail]
      · rcases hrest with hrest | hrest | hrest <;> simp [htail, hrest]
    · refine (hexpr h hlength hrest).bind fun read hread => ?_
      exact .pure (by rw [hlabel, ← hread, Argument.eraseSpans, Argument.mapSpans])
  | named h =>
    refine completes_label.bind fun label hlabel => ?_
    rw [List.length_cons, List.length_cons] at hlength
    refine (hexpr h (by omega) hrest).bind fun read hread => ?_
    exact .pure (by rw [hlabel, ← hread, Argument.eraseSpans, Argument.mapSpans])

theorem covers_member :
    Covers (member expr) (MemberForm ExprForm) Member.eraseSpans Closes length := by
  intro kinds value rest h hlength hrest
  rw [member]
  refine .get_bind fun cursor _ => ?_
  cases h with
  | named h =>
    refine completes_label.bind fun label hlabel => ?_
    rw [hlabel]
    rw [List.length_cons, List.length_cons] at hlength
    refine (hexpr h (by omega) hrest).bind fun read hread => ?_
    exact .pure (by rw [← hread, Member.eraseSpans, Member.mapSpans])
  | path h =>
    refine (completes_label_none fun name _ => ?_).bind fun label hlabel => ?_
    · rcases h.nextKind_tail rest with htail | htail
      · simp [htail]
      · rcases hrest with hrest | hrest | hrest <;> simp [htail, hrest]
    · rw [hlabel]
      refine (completes_path h ?_).bind fun read hread => ?_
      · rcases hrest with hrest | hrest | hrest <;> simp [hrest]
      · refine completes_spanFrom.bind fun span _ => ?_
        exact .pure (by rw [hread, Member.eraseSpans, Member.mapSpans])

/-- The arguments of a call, in their parentheses, behind its target and method. -/
theorem completes_callBehind {target method : String} {start : Span} {arguments : List TokenKind}
    {made : Call} (h : CallForm ExprForm (callKinds target method arguments) made)
    (hlength : arguments.length ≤ length) :
    Completes (callBehind expr target method start)
      (.punctuation .leftParen :: (arguments ++ .punctuation .rightParen :: rest)) rest
      (·.eraseSpans = made) := by
  rw [callBehind]
  refine completes_expect.bind fun _ _ => ?_
  refine .get_bind fun cursor hat => ?_
  rcases h.of_callKinds with ⟨rfl, rfl⟩ | ⟨items, hitems, rfl⟩
  · rw [if_pos (by rw [Cursor.isAt_iff, hat.kind_current]; rfl)]
    have hbare : Completes (pure []) (.punctuation .rightParen :: rest)
        (.punctuation .rightParen :: rest) fun read : List Argument => read = [] := .pure rfl
    refine hbare.bind fun read hread => ?_
    refine completes_expect.bind fun _ _ => ?_
    refine completes_spanFrom.bind fun span _ => ?_
    exact .pure (by rw [hread]; rfl)
  · rw [if_neg (by
      rw [Cursor.isAt_iff, hat.kind_current]
      exact hitems.nextKind_ne fun h => h.nextKind_ne (by decide))]
    refine completes_fuel.bind fun bound hbound => ?_
    refine (completes_separated (covers_argument hexpr) hitems hlength ?_ rfl).bind
      fun read hread => ?_
    · have hle := length_le_of_separated ArgumentForm.ne_nil hitems
      rw [hbound, List.length_append]
      omega
    refine completes_expect.bind fun _ _ => ?_
    refine completes_spanFrom.bind fun span _ => ?_
    exact .pure (by rw [← hread, Call.eraseSpans, Call.mapSpans, mapArguments_eq_map])

theorem covers_call :
    Covers (call expr) (CallForm ExprForm) Call.eraseSpans (fun _ => True) length := by
  intro kinds made rest h hlength _
  obtain ⟨target, method, arguments, rfl⟩ := h.kinds_eq
  rw [callKinds, List.length_cons, List.length_cons, List.length_cons, List.length_cons,
    List.length_append] at hlength
  rw [call, callKinds]
  simp only [List.cons_append, List.append_assoc, List.nil_append]
  refine .get_bind fun cursor _ => ?_
  refine completes_identifier.bind fun found hfound => ?_
  refine completes_expect.bind fun _ _ => ?_
  refine completes_identifier.bind fun found' hfound' => ?_
  rw [hfound, hfound']
  exact completes_callBehind hexpr h (by omega)

theorem covers_statement :
    Covers (statement expr) (StatementForm ExprForm) Call.eraseSpans (fun _ => True) length := by
  intro kinds made rest h hlength _
  cases h with
  | call h =>
    rw [List.length_append] at hlength
    rw [statement, List.append_assoc]
    refine (covers_call hexpr h (by omega) trivial).bind fun read hread => ?_
    refine completes_expect.bind fun _ _ => ?_
    exact .pure hread

theorem completes_newValue_array {start : Span} {items : List Expr}
    (h : Listed ExprForm kinds items) (hlength : kinds.length ≤ length) :
    Completes (newValue expr start) ((arrayKinds kinds).tail ++ rest) rest
      (·.eraseSpans = .array items default) := by
  rw [newValue, arrayKinds]
  simp only [List.tail_cons, List.cons_append, List.append_assoc, List.nil_append]
  refine completes_skip.bind fun found hfound => ?_
  rw [hfound, if_pos rfl]
  refine completes_expect.bind fun _ _ => ?_
  refine completes_expect.bind fun _ _ => ?_
  refine completes_fuel.bind fun bound hbound => ?_
  refine (completes_listed hexpr (fun h => h.nextKind_ne (by decide)) h hlength ?_ rfl).bind
    fun read hread => ?_
  · have hle := length_le_of_listed ExprForm.ne_nil h
    rw [hbound, List.length_append]
    omega
  refine completes_expect.bind fun _ _ => ?_
  refine completes_spanFrom.bind fun span _ => ?_
  exact .pure (by rw [← hread, Expr.eraseSpans, Expr.mapSpans, mapItems_eq_map])

theorem completes_newValue_object {start : Span} {members : List Member}
    (h : Listed (MemberForm ExprForm) kinds members) (hlength : kinds.length ≤ length) :
    Completes (newValue expr start) ((objectKinds kinds).tail ++ rest) rest
      (·.eraseSpans = .object members default) := by
  rw [newValue, objectKinds]
  simp only [List.tail_cons, List.cons_append, List.append_assoc, List.nil_append]
  refine (completes_skip_of_ne (by simp [nextKind])).bind fun found hfound => ?_
  rw [hfound, if_neg Bool.false_ne_true]
  refine completes_skip.bind fun found hfound => ?_
  rw [hfound, if_pos rfl]
  refine completes_fuel.bind fun bound hbound => ?_
  refine (completes_listed (covers_member hexpr) (fun h => h.nextKind_ne) h hlength ?_ rfl).bind
    fun read hread => ?_
  · have hle := length_le_of_listed MemberForm.ne_nil h
    rw [hbound, List.length_append]
    omega
  refine completes_expect.bind fun _ _ => ?_
  refine completes_spanFrom.bind fun span _ => ?_
  exact .pure (by rw [← hread, Expr.eraseSpans, Expr.mapSpans, mapMembers_eq_map])

theorem completes_functionBehind {parameter : String} {start : Span} {body : Expr}
    (h : ExprForm kinds body) (hlength : kinds.length ≤ length) (hrest : Closes (nextKind rest)) :
    Completes (functionBehind expr parameter start) (kinds ++ rest) rest
      (·.eraseSpans = .function parameter body default) := by
  rw [functionBehind]
  refine (completes_skip_of_ne (h.nextKind_ne (by decide))).bind fun found hfound => ?_
  rw [hfound, if_neg Bool.false_ne_true]
  refine (hexpr h hlength hrest).bind fun read hread => ?_
  refine completes_spanFrom.bind fun span _ => ?_
  exact .pure (by rw [← hread, Expr.eraseSpans, Expr.mapSpans])

theorem completes_functionBehind_block {parameter : String} {start : Span}
    {statements : List Call} (h : Repeated (StatementForm ExprForm) kinds statements)
    (hlength : kinds.length ≤ length) :
    Completes (functionBehind expr parameter start)
      (.punctuation .leftBrace :: (kinds ++ .punctuation .rightBrace :: rest)) rest
      (·.eraseSpans = .block parameter statements default) := by
  rw [functionBehind]
  refine completes_skip.bind fun found hfound => ?_
  rw [hfound, if_pos rfl]
  refine completes_fuel.bind fun bound hbound => ?_
  refine (completes_blockOf (covers_statement hexpr) StatementForm.ne_nil
    (fun h => h.nextKind_ne) h hlength ?_ rfl).bind fun read hread => ?_
  · have hle := length_le_of_repeated StatementForm.ne_nil h
    rw [hbound, List.length_append]
    omega
  refine completes_expect.bind fun _ _ => ?_
  refine completes_spanFrom.bind fun span _ => ?_
  exact .pure (by rw [← hread, Expr.eraseSpans, Expr.mapSpans, mapCalls_eq_map])

omit hexpr in
theorem completes_pathOrCall_path {start : Span} {segments : List String}
    (h : PathForm kinds segments) (hrest : Closes (nextKind rest)) :
    Completes (pathOrCall expr start) (kinds ++ rest) rest
      (·.eraseSpans = .path segments default) := by
  rw [pathOrCall]
  refine (completes_path h ?_).bind fun read hread => ?_
  · rcases hrest with hrest | hrest | hrest <;> simp [hrest]
  refine .get_bind fun cursor hat => ?_
  rw [if_neg (by
    rw [Cursor.isAt_iff, hat.kind_current]
    rcases hrest with hrest | hrest | hrest <;> simp [hrest])]
  refine completes_spanFrom.bind fun span _ => ?_
  exact .pure (by rw [hread, Expr.eraseSpans, Expr.mapSpans])

theorem completes_pathOrCall_call {start : Span} {made : Call}
    (h : CallForm ExprForm kinds made) (hlength : kinds.length ≤ length + 1) :
    Completes (pathOrCall expr start) (kinds ++ rest) rest (·.eraseSpans = .call made) := by
  obtain ⟨target, method, arguments, rfl⟩ := h.kinds_eq
  rw [callKinds, List.length_cons, List.length_cons, List.length_cons, List.length_cons,
    List.length_append] at hlength
  have hpath : PathForm [.identifier target, .punctuation .dot, .identifier method]
      [target, method] := .cons .last
  have hread : Completes path
      ([.identifier target, .punctuation .dot, .identifier method] ++
        .punctuation .leftParen :: (arguments ++ .punctuation .rightParen :: rest))
      (.punctuation .leftParen :: (arguments ++ .punctuation .rightParen :: rest))
      (· = [target, method]) := completes_path hpath (by simp [nextKind])
  rw [pathOrCall, callKinds]
  simp only [List.cons_append, List.append_assoc, List.nil_append] at hread ⊢
  refine hread.bind fun segments hsegments => ?_
  refine .get_bind fun cursor hat => ?_
  rw [if_pos (by rw [Cursor.isAt_iff, hat.kind_current]; rfl), hsegments]
  refine (completes_callBehind hexpr h (by omega)).bind fun read hread => ?_
  exact .pure (by rw [← hread, Expr.eraseSpans, Expr.mapSpans])

end Nested

theorem completes_number {kind : TokenKind} {unsigned : Constant} {negative : Bool}
    (h : NumberForm kind unsigned) :
    Completes (number negative) (kind :: kinds) kinds
      (· = if negative then unsigned.negate else unsigned) :=
  fun before hat =>
    ⟨_, before.advance, number_of_kind (by rw [hat.kind_current]; exact h), rfl, hat.advance⟩

/-- A number without its sign, as an expression. -/
theorem completes_unsigned {kind : TokenKind} {unsigned : Constant} {start : Span}
    (h : NumberForm kind unsigned) :
    Completes (do return .constant (← number false) (← spanFrom start) : Parser Expr)
      (kind :: kinds) kinds (·.eraseSpans = .constant unsigned default) := by
  refine (completes_number h).bind fun read hread => ?_
  refine completes_spanFrom.bind fun span _ => ?_
  exact .pure (by rw [hread]; rfl)

theorem completes_literal {kind : TokenKind} {value : Constant} {start : Span} :
    Completes (literal value start) (kind :: kinds) kinds
      (·.eraseSpans = .constant value default) := by
  rw [literal]
  refine completes_advance.bind fun _ _ => ?_
  refine completes_spanFrom.bind fun span _ => ?_
  exact .pure rfl

theorem covers_expression (depth : Nat) :
    Covers (expression depth) ExprForm Expr.eraseSpans Closes depth := by
  induction depth with
  | zero =>
    intro kinds value rest h hlength _
    exact absurd (List.length_eq_zero_iff.mp (Nat.le_zero.mp hlength)) h.ne_nil
  | succ depth ih =>
    intro kinds value rest h hlength hrest
    rw [expression]
    refine .get_bind fun cursor hat => ?_
    refine .get_bind fun cursor' hat' => ?_
    rw [hat'.kind_current]
    -- Each rule of the grammar fixes the first token, and so the branch that is taken.
    cases h with
    | string => exact completes_literal
    | true => exact completes_literal
    | false => exact completes_literal
    | null => exact completes_literal
    | number h =>
      cases h <;> exact completes_unsigned (by constructor)
    | negative h =>
      refine completes_advance.bind fun _ _ => ?_
      refine (completes_number h).bind fun read hread => ?_
      refine completes_spanFrom.bind fun span _ => ?_
      exact .pure (by rw [hread]; rfl)
    | array h =>
      rw [arrayKinds, List.length_cons] at hlength
      refine completes_advance.bind fun _ _ => ?_
      refine completes_newValue_array ih h ?_
      simp only [List.length_cons, List.length_append] at hlength
      omega
    | object h =>
      rw [objectKinds, List.length_cons] at hlength
      refine completes_advance.bind fun _ _ => ?_
      refine completes_newValue_object ih h ?_
      simp only [List.length_cons, List.length_append] at hlength
      omega
    | function h =>
      rw [functionKinds, List.length_cons, List.length_cons] at hlength
      refine completes_label.bind fun found hfound => ?_
      rw [hfound]
      exact completes_functionBehind ih h (by omega) hrest
    | block h =>
      simp only [blockKinds, functionKinds, List.length_cons, List.length_append] at hlength
      simp only [blockKinds, functionKinds, List.cons_append, List.append_assoc, List.nil_append]
      refine completes_label.bind fun found hfound => ?_
      rw [hfound]
      exact completes_functionBehind_block ih h (by omega)
    | path h =>
      have htail := h.nextKind_tail rest
      obtain ⟨name, tail, rfl⟩ : ∃ name tail, kinds = .identifier name :: tail := by
        cases h <;> exact ⟨_, _, rfl⟩
      -- A path starts like a function, but no arrow follows its first name.
      refine (completes_label_none fun _ _ => ?_).bind fun found hfound => ?_
      · rcases htail with htail | htail <;> rw [htail]
        · decide
        · rcases hrest with hrest | hrest | hrest <;> rw [hrest] <;> decide
      · rw [hfound]
        exact completes_pathOrCall_path h hrest
    | call h =>
      obtain ⟨target, method, arguments, rfl⟩ := h.kinds_eq
      refine (completes_label_none fun _ _ => ?_).bind fun found hfound => ?_
      · simp [callKinds, nextKind]
      · rw [hfound]
        exact completes_pathOrCall_call ih h hlength

theorem covers_nextStatement (length : Nat) :
    Covers nextStatement (StatementForm ExprForm) Call.eraseSpans (fun _ => True) length := by
  intro kinds value rest h _ _
  rw [nextStatement]
  refine completes_fuel.bind fun bound hbound => ?_
  refine covers_statement (covers_expression bound) h ?_ trivial
  rw [hbound, List.length_append]
  omega

/-- Where the tokens of a script are left the reader of scripts returns its statements. -/
theorem program_complete {statements : List Call} (h : ProgramForm kinds statements) :
    Completes program kinds [] (·.map Call.eraseSpans = statements) := by
  rw [program]
  refine completes_fuel.bind fun bound hbound => ?_
  refine completes_untilEnd (covers_nextStatement kinds.length) StatementForm.ne_nil h
    (Nat.le_refl _) ?_
  have hle := length_le_of_repeated StatementForm.ne_nil h
  omega

end Parser

end MigrationScript
