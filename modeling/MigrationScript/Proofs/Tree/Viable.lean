import MigrationScript.Proofs.Tree.Shared

/-!
# Where a reader fails

What a reader has taken before it fails is the front of some spelling, and the error speaks of the
token that comes next.
-/

namespace MigrationScript

/-! ### Fronts of spellings -/

/-- What may stand behind the given kinds in a form. -/
def Form.behind {α : Type} (form : Form α) (front : List TokenKind) : Form α :=
  fun kinds value => form (front ++ kinds) value

/-- The kinds are those with which some spelling starts. -/
def Opens {α : Type} (form : Form α) (kinds : List TokenKind) : Prop :=
  ∃ rest value, form (kinds ++ rest) value

section Fronts

variable {α β : Type} {form : Form α} {outer : Form β} {kinds rest : List TokenKind}

theorem Opens.of_form (value : α) (h : form kinds value) : Opens form kinds :=
  ⟨[], value, by rwa [List.append_nil]⟩

theorem Opens.of_append (h : Opens form (kinds ++ rest)) : Opens form kinds := by
  obtain ⟨more, value, h⟩ := h
  exact ⟨rest ++ more, value, by rwa [← List.append_assoc]⟩

theorem Opens.nil (h : Opens form kinds) : Opens form [] :=
  @of_append _ _ [] kinds h

theorem Opens.behind (h : Opens (form.behind kinds) rest) : Opens form (kinds ++ rest) := by
  obtain ⟨more, value, h⟩ := h
  exact ⟨more, value, by rwa [List.append_assoc]⟩

/-- Where every spelling in one form starts one in another, so does the front of one. -/
theorem Opens.mono (h : Opens form kinds)
    (himp : ∀ ⦃kinds value⦄, form kinds value → Opens outer kinds) : Opens outer kinds := by
  obtain ⟨more, value, h⟩ := h
  exact (himp h).of_append

end Fronts

/-- Why a reader fails that has read the given tokens: the next token is none of those that may
follow, or it opens the arguments of a call for which the tokens in front of it are too few or too
many names. An expression starts with the first of these names. -/
inductive Blames {α : Type} (form : Form α) (read : List Token) (found : Token)
    (error : ParseError) : Prop
  | unexpected (expectation : Expectation) :
    error = .unexpected expectation found → Blames form read found error
  | callForm {front dotted : List Token} {first last : Token} {segments : List String} :
    error.cause = .callForm → found.kind = .punctuation .leftParen → read = front ++ dotted →
    Opens form (front.map (·.kind) ++ [.keyword .null]) →
    PathForm (dotted.map (·.kind)) segments → segments.length ≠ 2 →
    dotted.head? = some first → dotted.getLast? = some last →
    error.span = first.span.merge last.span → Blames form read found error

section Blame

variable {α β : Type} {form : Form α} {outer : Form β} {read front : List Token} {found : Token}
  {error : ParseError}

theorem Blames.mono (h : Blames form read found error)
    (himp : ∀ ⦃kinds value⦄, form kinds value → Opens outer kinds) :
    Blames outer read found error := by
  cases h with
  | unexpected expectation h => exact .unexpected expectation h
  | callForm hcause hfound hread hfront hpath hlength hfirst hlast hspan =>
    exact .callForm hcause hfound hread (hfront.mono himp) hpath hlength hfirst hlast hspan

theorem Blames.behind (h : Blames (form.behind (front.map (·.kind))) read found error) :
    Blames form (front ++ read) found error := by
  cases h with
  | unexpected expectation h => exact .unexpected expectation h
  | @callForm front' dotted first last segments hcause hfound hread hfront hpath hlength hfirst
      hlast hspan =>
    have hread : front ++ read = front ++ front' ++ dotted := by rw [hread, List.append_assoc]
    refine .callForm hcause hfound hread ?_ hpath hlength hfirst hlast hspan
    rw [List.map_append, List.append_assoc]
    exact hfront.behind

end Blame

namespace Parser

variable {α β γ : Type} {parser : Parser α} {further : α → Parser β} {before : Cursor}
  {form : Form γ}

/-- Where the parser fails, what it has read starts a spelling in the form, and the error speaks of
the token that comes next. -/
def HaltsAt (before : Cursor) (parser : Parser α) (form : Form γ) : Prop :=
  ∀ ⦃error after⦄, parser before = .error error after → ∃ read, before.rest = read ++ after.rest ∧
    Opens form (read.map (·.kind)) ∧ Blames form read after.current error

def Halts (parser : Parser α) (form : Form γ) : Prop :=
  ∀ ⦃before⦄, before.Ends → HaltsAt before parser form

/-! ### Steps -/

/-- Of two steps either the first fails, or the second does behind it. -/
theorem error_of_bind {error : ParseError} {after : Cursor}
    (h : (parser >>= further) before = .error error after) :
    parser before = .error error after ∨
      ∃ value middle, parser before = .ok value middle ∧
        further value middle = .error error after := by
  cases hvalue : parser before with
  | ok value middle =>
    rw [bind_of_ok hvalue] at h
    exact .inr ⟨value, middle, rfl, h⟩
  | error error' middle =>
    rw [bind_of_error hvalue] at h
    cases h
    exact .inl rfl

theorem haltsAt_pure (value : α) : HaltsAt before (pure value) form := by
  intro error after h
  cases h

theorem haltsAt_expected {expectation : Expectation} (h : Opens form []) :
    HaltsAt before (expected expectation : Parser α) form := by
  intro error after heq
  cases heq
  exact ⟨[], rfl, h, .unexpected expectation rfl⟩

/-- The tokens in front of the place at which a reader starts have been read as well. -/
theorem stop_of_reads {kinds : List TokenKind} {middle after : Cursor} {error : ParseError}
    (hreads : before.Reads kinds middle)
    (h : ∃ read, middle.rest = read ++ after.rest ∧
      Opens (form.behind kinds) (read.map (·.kind)) ∧
      Blames (form.behind kinds) read after.current error) :
    ∃ read, before.rest = read ++ after.rest ∧ Opens form (read.map (·.kind)) ∧
      Blames form read after.current error := by
  obtain ⟨-, front, hfront, rfl⟩ := hreads
  obtain ⟨read, hread, hopens, hblames⟩ := h
  refine ⟨front ++ read, by rw [hfront, hread, List.append_assoc], ?_, hblames.behind⟩
  rw [List.map_append]
  exact hopens.behind

theorem HaltsAt.mono {δ : Type} {inner : Form δ} (h : HaltsAt before parser inner)
    (himp : ∀ ⦃kinds value⦄, inner kinds value → Opens form kinds) :
    HaltsAt before parser form := by
  intro error after herror
  obtain ⟨read, hread, hopens, hblames⟩ := h herror
  exact ⟨read, hread, hopens.mono himp, hblames.mono himp⟩

/-- Whatever the first step reads where it succeeds may stand in front of what follows it. -/
theorem HaltsAt.bind {δ : Type} {inner : Form δ} (view : α → δ) (h : HaltsAt before parser inner)
    (hends : before.Ends)
    (hreads : ∀ ⦃value after⦄, parser before = .ok value after →
      ∃ kinds, before.Reads kinds after ∧ inner.under view kinds value)
    (hopens : ∀ ⦃kinds value⦄, inner kinds value → Opens form kinds)
    (hfurther : ∀ value ⦃kinds middle⦄, inner kinds (view value) → middle.Ends →
      HaltsAt middle (further value) (form.behind kinds)) :
    HaltsAt before (parser >>= further) form := by
  intro error after herror
  rcases error_of_bind herror with herror | ⟨value, middle, hvalue, herror⟩
  · exact h.mono hopens herror
  · obtain ⟨kinds, hkinds, hinner⟩ := hreads hvalue
    exact stop_of_reads hkinds (hfurther value hinner (hkinds.ends hends) herror)

theorem HaltsAt.map {view : α → β} (h : HaltsAt before parser form) :
    HaltsAt before (parser >>= fun value => pure (view value)) form := by
  intro error after herror
  rcases error_of_bind herror with herror | ⟨value, middle, -, herror⟩
  · exact h herror
  · cases herror

theorem haltsAt_get_bind {further : Cursor → Parser β} (h : HaltsAt before (further before) form) :
    HaltsAt before (get >>= further) form :=
  h

theorem haltsAt_fuel_bind {further : Nat → Parser β}
    (h : HaltsAt before (further (before.rest.length + 1)) form) :
    HaltsAt before (fuel >>= further) form :=
  h

theorem haltsAt_ite {condition : Prop} [Decidable condition] {other : Parser α}
    (h : HaltsAt before parser form) (hother : HaltsAt before other form) :
    HaltsAt before (if condition then parser else other) form := by
  split
  · exact h
  · exact hother

/-! ### Single tokens -/

theorem haltsAt_spanFrom_bind {start : Span} {make : Span → α} :
    HaltsAt before (do return make (← spanFrom start)) form := by
  intro error after h
  cases h

/-- A parser that takes the current token first. -/
theorem haltsAt_of_advance {kind : TokenKind} (parser' : Parser α) (hends : before.Ends)
    (hkind : before.current.kind = kind) (hne : kind ≠ .endOfInput)
    (heq : parser before = parser' before.advance)
    (h : before.advance.Ends → HaltsAt before.advance parser' (form.behind [kind])) :
    HaltsAt before parser form := by
  subst hkind
  have hread := Cursor.reads_advance hends hne
  intro error after herror
  rw [heq] at herror
  exact stop_of_reads hread (h (hread.ends hends) herror)

theorem haltsAt_advance_bind {kind : TokenKind} {further : Unit → Parser α} (hends : before.Ends)
    (hkind : before.current.kind = kind) (hne : kind ≠ .endOfInput)
    (h : before.advance.Ends → HaltsAt before.advance (further ()) (form.behind [kind])) :
    HaltsAt before (advance >>= further) form :=
  haltsAt_of_advance _ hends hkind hne rfl h

theorem haltsAt_expect_bind {mark : Punctuation} {further : Unit → Parser α}
    (hends : before.Ends) (hopens : Opens form [.punctuation mark])
    (h : ∀ ⦃middle : Cursor⦄, middle.Ends →
      HaltsAt middle (further ()) (form.behind [.punctuation mark])) :
    HaltsAt before (expect mark >>= further) form := by
  by_cases hkind : before.current.kind = .punctuation mark
  · exact haltsAt_of_advance _ hends hkind nofun (bind_of_ok (expect_of_kind hkind)) fun h' => h h'
  · intro error after herror
    rw [expect, bind_assoc, get_bind, if_neg (mt Cursor.isAt_iff.mp hkind)] at herror
    exact haltsAt_expected hopens.nil herror

theorem haltsAt_identifier_bind {further : String → Parser α} (hends : before.Ends)
    (hopens : ∀ name, Opens form [.identifier name])
    (h : ∀ name ⦃middle : Cursor⦄, middle.Ends →
      HaltsAt middle (further name) (form.behind [.identifier name])) :
    HaltsAt before (identifier >>= further) form := by
  by_cases hname : ∃ name, before.current.kind = .identifier name
  · obtain ⟨name, hkind⟩ := hname
    exact haltsAt_of_advance _ hends hkind nofun (bind_of_ok (identifier_of_kind hkind))
      fun h' => h name h'
  · intro error after herror
    rw [identifier, bind_assoc, get_bind] at herror
    cases hkind : before.current.kind with
    | identifier name => exact absurd ⟨name, hkind⟩ hname
    | _ =>
      rw [hkind] at herror
      exact haltsAt_expected (hopens "").nil herror

theorem haltsAt_skip_bind {mark : Punctuation} {further : Bool → Parser α} (hends : before.Ends)
    (hfound : ∀ ⦃middle : Cursor⦄, middle.Ends →
      HaltsAt middle (further true) (form.behind [.punctuation mark]))
    (hnone : HaltsAt before (further false) form) :
    HaltsAt before (skip mark >>= further) form := by
  by_cases hkind : before.current.kind = .punctuation mark
  · exact haltsAt_of_advance _ hends hkind nofun (bind_of_ok (skip_of_kind hkind))
      fun h' => hfound h'
  · intro error after herror
    rw [bind_of_ok (skip_of_kind_ne hkind)] at herror
    exact hnone herror

theorem haltsAt_label_bind {mark : Punctuation} {further : Option String → Parser α}
    (hends : before.Ends)
    (hsome : ∀ name ⦃middle : Cursor⦄, middle.Ends → HaltsAt middle (further (some name))
      ((form.behind [.identifier name]).behind [.punctuation mark]))
    (hnone : HaltsAt before (further none) form) :
    HaltsAt before (label mark >>= further) form := by
  by_cases hlabel : ∃ name, Labelled mark name before
  · obtain ⟨name, hlabel⟩ := hlabel
    have hmark : before.advance.current.kind = .punctuation mark := by
      rw [← hlabel.2, Cursor.current, Cursor.ahead, Cursor.rest_advance, Cursor.finish_advance]
    refine haltsAt_of_advance (fun middle => further (some name) middle.advance) hends hlabel.1
      nofun (bind_of_ok (label_of_labelled hlabel)) fun hname => ?_
    exact haltsAt_of_advance _ hname hmark nofun rfl fun hlabel => hsome name hlabel
  · intro error after herror
    rw [bind_of_ok (label_of_not_labelled (not_exists.mp hlabel))] at herror
    exact hnone herror

theorem haltsAt_number {negative : Bool} (h : Opens form []) :
    HaltsAt before (number negative) form := by
  intro error after herror
  rw [number, get_bind] at herror
  cases hkind : before.current.kind <;> rw [hkind] at herror
  case integer | long | double => cases herror
  all_goals
    rcases error_of_bind herror with herror | ⟨_, _, hvalue, -⟩
    · exact haltsAt_expected h herror
    · exact absurd hvalue expected_ne_ok

/-! ### Lists -/

section Lists

variable {item : Parser α} {form : Form β} {view : α → β} (hitem : Halts item form)
  (hsound : Sound item (form.under view)) {count : Nat}

include hitem hsound

theorem halts_separated : Halts (separated item count) (Separated form) := by
  induction count with
  | zero => exact fun _ _ => haltsAt_pure _
  | succ count ih =>
    intro before hends
    rw [separated]
    refine (hitem hends).bind view hends (fun _ _ hvalue => hsound hends hvalue)
      (fun _ _ h => .of_form [_] (.last h)) fun first kinds middle hfirst hends => ?_
    refine haltsAt_skip_bind hends (fun behind hends => ?_) (haltsAt_pure _)
    refine ((ih hends).mono fun rest others hothers => .of_form (view first :: others) ?_).map
    exact Separated.cons hfirst hothers

theorem halts_listed : Halts (listed item count) (Listed form) := by
  induction count with
  | zero => exact fun _ _ => haltsAt_pure _
  | succ count ih =>
    intro before hends
    rw [listed]
    refine haltsAt_get_bind (haltsAt_ite (haltsAt_pure _) ?_)
    refine (hitem hends).bind view hends (fun _ _ hvalue => hsound hends hvalue)
      (fun _ _ h => .of_form [_] (.separated (.last h))) fun first kinds middle hfirst hends => ?_
    refine haltsAt_skip_bind hends (fun behind hends => ?_) (haltsAt_pure _)
    refine ((ih hends).mono fun rest others hothers => .of_form (view first :: others) ?_).map
    exact Listed.cons hfirst hothers

theorem haltsAt_repeated {others : Parser (List α)} (hends : before.Ends)
    (h : Halts others (Repeated form)) :
    HaltsAt before (do let first ← item; return first :: (← others)) (Repeated form) := by
  refine (hitem hends).bind view hends (fun _ _ hvalue => hsound hends hvalue)
    (fun kinds value hvalue => ?_) fun first kinds middle hfirst hends => ?_
  · have hsingle : Repeated form (kinds ++ []) [value] := .cons hvalue .nil
    exact (Opens.of_form _ hsingle).of_append
  · refine ((h hends).mono fun rest others hothers => .of_form (view first :: others) ?_).map
    exact Repeated.cons hfirst hothers

theorem halts_blockOf : Halts (blockOf item count) (Repeated form) := by
  induction count with
  | zero => exact fun _ _ => haltsAt_pure _
  | succ count ih =>
    intro before hends
    rw [blockOf]
    refine haltsAt_get_bind (haltsAt_ite (haltsAt_pure _) (haltsAt_get_bind (haltsAt_ite ?_ ?_)))
    · intro error after herror
      rcases error_of_bind herror with herror | ⟨_, _, hvalue, -⟩
      · exact haltsAt_expected (.of_form [] .nil) herror
      · exact absurd hvalue expected_ne_ok
    · exact haltsAt_repeated hitem hsound hends ih

theorem halts_untilEnd : Halts (untilEnd item count) (Repeated form) := by
  induction count with
  | zero => exact fun _ _ => haltsAt_pure _
  | succ count ih =>
    intro before hends
    rw [untilEnd]
    exact haltsAt_get_bind (haltsAt_ite (haltsAt_pure _)
      (haltsAt_repeated hitem hsound hends ih))

end Lists

theorem halts_pathTail (name : String) {count : Nat} :
    Halts (pathTail count) (PathForm.behind [.identifier name]) := by
  induction count generalizing name with
  | zero => exact fun _ _ => haltsAt_pure _
  | succ count ih =>
    intro before hends
    have hpath (segment : String) : PathForm
        [.identifier name, .punctuation .dot, .identifier segment] [name, segment] := .cons .last
    rw [pathTail]
    refine haltsAt_skip_bind hends (fun middle hends => ?_) (haltsAt_pure _)
    rw [if_pos rfl]
    refine haltsAt_identifier_bind hends (fun segment => .of_form _ (hpath segment)) ?_
    intro segment behind hends
    refine ((ih segment hends).mono fun kinds names h => .of_form (name :: names) ?_).map
    exact PathForm.cons h

theorem halts_path : Halts path PathForm := by
  intro before hends
  rw [path]
  refine haltsAt_identifier_bind hends (fun name => .of_form [name] .last) ?_
  intro name middle hends
  exact (halts_pathTail name hends).map

/-! ### Productions -/

section Nested

variable {expr : Parser Expr} (hexpr : Halts expr ExprForm)
  (hsound : Sound expr (ExprForm.under Expr.eraseSpans)) {start : Span}

include hexpr

theorem halts_argument : Halts (argument expr) (ArgumentForm ExprForm) := by
  intro before hends
  rw [argument]
  refine haltsAt_get_bind (haltsAt_label_bind hends (fun name middle hends => ?_) ?_)
  · exact ((hexpr hends).mono fun kinds value h => .of_form _ (.named h)).map
  · exact ((hexpr hends).mono fun kinds value h => .of_form _ (.positional h)).map

theorem halts_member : Halts (member expr) (MemberForm ExprForm) := by
  intro before hends
  rw [member]
  refine haltsAt_get_bind (haltsAt_label_bind hends (fun name middle hends => ?_) ?_)
  · exact ((hexpr hends).mono fun kinds value h => .of_form _ (.named h)).map
  · exact (halts_path hends).bind id hends (fun _ _ hvalue => sound_path hends hvalue)
      (fun kinds segments h => .of_form _ (.path h)) fun _ _ _ _ _ => haltsAt_spanFrom_bind

include hsound

/-- A call whose target and method have been read. -/
theorem halts_callBehind {target method : String} :
    Halts (callBehind expr target method start) ((CallForm ExprForm).behind
      [.identifier target, .punctuation .dot, .identifier method]) := by
  intro before hends
  have hbare : CallForm ExprForm (callKinds target method []) ⟨target, method, [], default⟩ := .bare
  rw [callBehind]
  refine haltsAt_expect_bind hends ⟨[.punctuation .rightParen], _, hbare⟩ fun middle hends => ?_
  refine haltsAt_get_bind (haltsAt_ite ?_ ?_)
  · exact haltsAt_expect_bind hends (.of_form _ hbare) fun _ _ => haltsAt_spanFrom_bind
  · refine haltsAt_fuel_bind (HaltsAt.bind (List.map Argument.eraseSpans)
      (halts_separated (halts_argument hexpr) (sound_argument hsound) hends) hends
      (fun arguments after hvalue => ?_) (fun kinds arguments h => ?_)
      fun arguments kinds last harguments hends => ?_)
    · obtain ⟨kinds, hread, hform⟩ := reads_separated (sound_argument hsound)
        (fun value h => h.ne_nil rfl) hends (Nat.lt_succ_self _) hvalue
      exact ⟨kinds, hread, hform.map⟩
    · exact ⟨[.punctuation .rightParen], _, .arguments h⟩
    · exact haltsAt_expect_bind hends (.of_form _ (.arguments harguments))
        fun _ _ => haltsAt_spanFrom_bind

theorem halts_call : Halts (call expr) (CallForm ExprForm) := by
  intro before hends
  have hbare (target method : String) :
      CallForm ExprForm (callKinds target method []) ⟨target, method, [], default⟩ := .bare
  rw [call]
  refine haltsAt_get_bind (haltsAt_identifier_bind hends
    (fun target => ⟨_, _, hbare target ""⟩) fun target middle hends => ?_)
  refine haltsAt_expect_bind hends ⟨_, _, hbare target ""⟩ fun middle hends => ?_
  refine haltsAt_identifier_bind hends (fun method => ⟨_, _, hbare target method⟩)
    fun method middle hends => ?_
  exact halts_callBehind hexpr hsound hends

theorem halts_statement : Halts (statement expr) (StatementForm ExprForm) := by
  intro before hends
  rw [statement]
  refine (halts_call hexpr hsound hends).bind Call.eraseSpans hends
    (fun _ _ hvalue => sound_call hsound hends hvalue)
    (fun kinds made h => ⟨_, _, .call h⟩) fun made kinds middle hmade hends => ?_
  exact haltsAt_expect_bind hends (.of_form _ (.call hmade)) fun _ _ => haltsAt_pure _

theorem halts_newValue : Halts (newValue expr start) (ExprForm.behind [.keyword .new]) := by
  intro before hends
  have harray : ExprForm (arrayKinds []) (.array [] default) := .array .nil
  rw [newValue]
  refine haltsAt_skip_bind hends (fun middle hends => ?_) ?_
  · rw [if_pos rfl]
    refine haltsAt_expect_bind hends ⟨_, _, harray⟩ fun middle hends => ?_
    refine haltsAt_expect_bind hends ⟨_, _, harray⟩ fun middle hends => ?_
    refine haltsAt_fuel_bind (HaltsAt.bind (List.map Expr.eraseSpans)
      (halts_listed hexpr hsound hends) hends
      (fun items after hvalue => ?_) (fun kinds items h => ⟨_, _, .array h⟩)
      fun items kinds last hitems hends => ?_)
    · obtain ⟨kinds, hread, hform⟩ := reads_listed hsound hends hvalue
      exact ⟨kinds, hread, hform.map⟩
    · exact haltsAt_expect_bind hends (.of_form _ (.array hitems)) fun _ _ => haltsAt_spanFrom_bind
  · rw [if_neg Bool.false_ne_true]
    refine haltsAt_skip_bind hends (fun middle hends => ?_) (haltsAt_expected ⟨_, _, harray⟩)
    rw [if_pos rfl]
    refine haltsAt_fuel_bind (HaltsAt.bind (List.map Member.eraseSpans)
      (halts_listed (halts_member hexpr) (sound_member hsound) hends) hends
      (fun members after hvalue => ?_) (fun kinds members h => ⟨_, _, .object h⟩)
      fun members kinds last hmembers hends => ?_)
    · obtain ⟨kinds, hread, hform⟩ := reads_listed (sound_member hsound) hends hvalue
      exact ⟨kinds, hread, hform.map⟩
    · exact haltsAt_expect_bind hends (.of_form _ (.object hmembers))
        fun _ _ => haltsAt_spanFrom_bind

theorem halts_functionBehind {parameter : String} :
    Halts (functionBehind expr parameter start)
      (ExprForm.behind [.identifier parameter, .punctuation .arrow]) := by
  intro before hends
  rw [functionBehind]
  refine haltsAt_skip_bind hends (fun middle hends => ?_) ?_
  · rw [if_pos rfl]
    refine haltsAt_fuel_bind (HaltsAt.bind (List.map Call.eraseSpans)
      (halts_blockOf (halts_statement hexpr hsound) (sound_statement hsound) hends) hends
      (fun statements after hvalue => ?_) (fun kinds statements h => ⟨_, _, .block h⟩)
      fun statements kinds last hstatements hends => ?_)
    · obtain ⟨kinds, hread, hform⟩ := reads_blockOf (sound_statement hsound) hends hvalue
      exact ⟨kinds, hread, hform.map⟩
    · exact haltsAt_expect_bind hends (.of_form _ (.block hstatements))
        fun _ _ => haltsAt_spanFrom_bind
  · rw [if_neg Bool.false_ne_true]
    exact (hexpr hends).bind Expr.eraseSpans hends (fun _ _ hvalue => hsound hends hvalue)
      (fun kinds body h => .of_form _ (.function h)) fun _ _ _ _ _ => haltsAt_spanFrom_bind

omit hexpr hsound in
/-- Arguments stand behind a path that has not two names. -/
theorem stop_of_callForm {segments : List String} {middle after : Cursor} {error : ParseError}
    (hends : before.Ends) (hpath : path before = .ok segments middle)
    (hat : middle.isAt .leftParen = true) (hlength : segments.length ≠ 2)
    (herror : (do throw ⟨.callForm, ← spanFrom before.current.span⟩ : Parser Expr) middle =
      .error error after) :
    ∃ read, before.rest = read ++ after.rest ∧ Opens ExprForm (read.map (·.kind)) ∧
      Blames ExprForm read after.current error := by
  cases herror
  obtain ⟨kinds, hkinds, hform⟩ := sound_path hends hpath
  have htracks : Tracks 0 path := tracks_path
  obtain ⟨dotted, hread⟩ := htracks.moves before
  rw [hpath, place] at hread
  rw [← hread.kinds_eq hkinds] at hform
  have hne : dotted ≠ [] := fun heq => hform.ne_nil (by rw [heq, List.map_nil])
  obtain ⟨first, more, rfl⟩ := List.exists_cons_of_ne_nil hne
  refine ⟨first :: more, hread.rest_eq, .of_form _ (.path hform), ?_⟩
  have hfirst : before.current = first := by
    rw [Cursor.current, hread.rest_eq]
    rfl
  refine .callForm rfl (Cursor.isAt_iff.mp hat) (List.nil_append _).symm (.of_form _ .null) hform
    hlength rfl (List.getLast?_eq_some_getLast hne) ?_
  show before.current.span.merge middle.previous = _
  rw [hfirst, hread.previous_eq, List.getLast?_eq_some_getLast hne]
  rfl

theorem haltsAt_pathOrCall (hends : before.Ends) :
    HaltsAt before (pathOrCall expr before.current.span) ExprForm := by
  intro error after herror
  rw [pathOrCall] at herror
  rcases error_of_bind herror with herror | ⟨segments, middle, hpath, herror⟩
  · exact (halts_path hends).mono (fun _ _ h => .of_form _ (.path h)) herror
  obtain ⟨kinds, hread, hform⟩ := sound_path hends hpath
  rw [get_bind] at herror
  split at herror
  · rename_i hat
    rcases segments with - | ⟨target, - | ⟨method, - | ⟨third, others⟩⟩⟩
    · exact stop_of_callForm hends hpath hat (by simp) herror
    · exact stop_of_callForm hends hpath hat (by simp) herror
    · obtain rfl : kinds = [.identifier target, .punctuation .dot, .identifier method] := by
        cases hform with
        | cons hform =>
          cases hform with
          | last => rfl
          | cons hform => cases hform
      refine stop_of_reads hread (HaltsAt.map ?_ herror)
      exact (halts_callBehind hexpr hsound (hread.ends hends)).mono
        fun kinds made h => .of_form _ (.call h)
    · exact stop_of_callForm hends hpath hat (by simp) herror
  · cases herror

end Nested

/-- Every expression starts with a keyword or in another way. -/
theorem opens_expression : Opens ExprForm [] :=
  (Opens.of_form _ ExprForm.null).nil

theorem halts_expression (depth : Nat) : Halts (expression depth) ExprForm := by
  induction depth with
  | zero => exact fun _ _ => haltsAt_expected opens_expression
  | succ depth ih =>
    have hsound := sound_expression depth
    intro before hends
    have hliteral {value : Constant} {start : Span} :
        HaltsAt before (literal value start) ExprForm := by
      intro error after h
      cases h
    have hnumber {negative : Bool} {start : Span} {place : Cursor} {form : Form Expr}
        (hopens : Opens form []) :
        HaltsAt place (do return Expr.constant (← number negative) (← spanFrom start)) form := by
      intro error after herror
      rcases error_of_bind herror with herror | ⟨value, middle, -, herror⟩
      · exact haltsAt_number hopens herror
      · cases herror
    rw [expression]
    refine haltsAt_get_bind (haltsAt_get_bind ?_)
    cases hkind : before.current.kind with
    | integer value => exact hnumber opens_expression
    | long value => exact hnumber opens_expression
    | double value => exact hnumber opens_expression
    | string value => exact hliteral
    | identifier name =>
      refine haltsAt_label_bind hends (fun parameter middle hends => ?_) ?_
      · exact halts_functionBehind ih hsound hends
      · exact haltsAt_pathOrCall ih hsound hends
    | keyword word =>
      cases word with
      | true => exact hliteral
      | false => exact hliteral
      | null => exact hliteral
      | new =>
        exact haltsAt_advance_bind hends hkind (by simp)
          fun hends => halts_newValue ih hsound hends
    | punctuation mark =>
      cases mark with
      | minus =>
        have hnegative : ExprForm [.punctuation .minus, .integer 0] _ := .negative .integer
        exact haltsAt_advance_bind hends hkind (by simp) fun _ => hnumber ⟨_, _, hnegative⟩
      | _ => exact haltsAt_expected opens_expression
    | endOfInput => exact haltsAt_expected opens_expression
    | invalid error => exact haltsAt_expected opens_expression

theorem halts_nextStatement : Halts nextStatement (StatementForm ExprForm) :=
  fun _ hends => haltsAt_fuel_bind (halts_statement (halts_expression _) (sound_expression _) hends)

/-- Where no script is read, what has been read starts a script, and the error speaks of the token
behind it. -/
theorem halts_program : Halts program ProgramForm :=
  fun _ hends =>
    haltsAt_fuel_bind (halts_untilEnd halts_nextStatement sound_nextStatement hends)

end Parser

end MigrationScript
