import MigrationScript.Proofs.Tree.Reading

namespace MigrationScript

namespace Parser

variable {α : Type} {before after : Cursor}

/-- Where the parser succeeds, the tokens that it has read spell its result. -/
def Sound (parser : Parser α) (form : Form α) : Prop :=
  ∀ ⦃before value after⦄, before.Ends → parser before = .ok value after →
    ∃ kinds, before.Reads kinds after ∧ form kinds value

/-! ### Single tokens -/

theorem reads_expect {mark : Punctuation} (hends : before.Ends)
    (h : expect mark before = .ok () after) : before.Reads [.punctuation mark] after := by
  have hkind := kind_of_expect h
  rw [expect_of_kind hkind] at h
  cases h
  rw [← hkind]
  exact Cursor.reads_advance hends (by rw [hkind]; simp)

theorem reads_skip {mark : Punctuation} {found : Bool} (hends : before.Ends)
    (h : skip mark before = .ok found after) :
    before.Reads (if found then [.punctuation mark] else []) after := by
  by_cases hkind : before.current.kind = .punctuation mark
  · rw [skip_of_kind hkind] at h
    cases h
    rw [if_pos rfl, ← hkind]
    exact Cursor.reads_advance hends (by rw [hkind]; simp)
  · rw [skip_of_kind_ne hkind] at h
    cases h
    exact Cursor.Reads.refl before

theorem reads_identifier {name : String} (hends : before.Ends)
    (h : identifier before = .ok name after) : before.Reads [.identifier name] after := by
  have hkind := kind_of_identifier h
  rw [identifier_of_kind hkind] at h
  cases h
  rw [← hkind]
  exact Cursor.reads_advance hends (by rw [hkind]; simp)

/-- The kinds of a label that has been read. -/
def labelKinds (mark : Punctuation) : Option String → List TokenKind
  | some name => [.identifier name, .punctuation mark]
  | none => []

theorem reads_label {mark : Punctuation} {name : Option String} (hends : before.Ends)
    (h : label mark before = .ok name after) : before.Reads (labelKinds mark name) after := by
  by_cases hlabel : ∃ found, Labelled mark found before
  · obtain ⟨found, hlabel⟩ := hlabel
    rw [label_of_labelled hlabel] at h
    cases h
    obtain ⟨hkind, hahead⟩ := hlabel
    have hread := Cursor.reads_advance hends (by rw [hkind]; simp)
    have hends' := hread.ends hends
    have hmark : before.advance.current.kind = .punctuation mark := by
      rw [Cursor.kind_current hends', Cursor.kinds, Cursor.rest_advance, List.map_tail,
        ← Cursor.kinds, ← Cursor.kind_ahead hends, hahead]
    have hread' := Cursor.reads_advance hends' (by rw [hmark]; simp)
    rw [hkind] at hread
    rw [hmark] at hread'
    exact hread.trans hread'
  · rw [label_of_not_labelled (not_exists.mp hlabel)] at h
    cases h
    exact Cursor.Reads.refl before

/-! ### Lists

The bound of a list is above the number of tokens that are left, and each item takes a token, so
that a list never ends because its bound does. -/

section Lists

variable {item : Parser α} {form : Form α} {items : List α} {bound : Nat}

theorem reads_separated (hitem : Sound item form) (hne : ∀ value, ¬ form [] value)
    (hends : before.Ends) (hbound : before.rest.length < bound)
    (h : separated item bound before = .ok items after) :
    ∃ kinds, before.Reads kinds after ∧ Separated form kinds items := by
  induction bound generalizing before items with
  | zero => omega
  | succ bound ih =>
    rw [separated] at h
    obtain ⟨first, middle, hfirst, h⟩ := bind_eq_ok.mp h
    obtain ⟨kinds, hread, hform⟩ := hitem hends hfirst
    obtain ⟨found, behind, hskip, h⟩ := bind_eq_ok.mp h
    have hskipped := reads_skip (hread.ends hends) hskip
    have hlength := hread.length_rest
    have hpos : 0 < kinds.length := List.length_pos_iff.mpr fun heq => hne first (heq ▸ hform)
    cases found with
    | false =>
      obtain ⟨rfl, rfl⟩ := pure_eq_ok.mp h
      exact ⟨kinds, by simpa using hread.trans hskipped, .last hform⟩
    | true =>
      obtain ⟨others, last, hothers, hpure⟩ := bind_eq_ok.mp h
      obtain ⟨rfl, rfl⟩ := pure_eq_ok.mp hpure
      have hread' := hread.trans hskipped
      have hlength' := hread'.length_rest
      rw [List.length_append] at hlength'
      obtain ⟨rest, hrest, hseparated⟩ := ih (hread'.ends hends) (by omega) hothers
      refine ⟨kinds ++ .punctuation .comma :: rest, ?_, .cons hform hseparated⟩
      simpa using hread'.trans hrest

theorem reads_listed (hitem : Sound item form) (hends : before.Ends)
    (h : listed item bound before = .ok items after) :
    ∃ kinds, before.Reads kinds after ∧ Listed form kinds items := by
  induction bound generalizing before items with
  | zero =>
    obtain ⟨rfl, rfl⟩ := pure_eq_ok.mp h
    exact ⟨[], .refl before, .nil⟩
  | succ bound ih =>
    rw [listed, get_bind] at h
    split at h
    · obtain ⟨rfl, rfl⟩ := pure_eq_ok.mp h
      exact ⟨[], .refl before, .nil⟩
    · obtain ⟨first, middle, hfirst, h⟩ := bind_eq_ok.mp h
      obtain ⟨kinds, hread, hform⟩ := hitem hends hfirst
      obtain ⟨found, behind, hskip, h⟩ := bind_eq_ok.mp h
      have hread' := hread.trans (reads_skip (hread.ends hends) hskip)
      cases found with
      | false =>
        obtain ⟨rfl, rfl⟩ := pure_eq_ok.mp h
        exact ⟨kinds, by simpa using hread', .separated (.last hform)⟩
      | true =>
        obtain ⟨others, last, hothers, hpure⟩ := bind_eq_ok.mp h
        obtain ⟨rfl, rfl⟩ := pure_eq_ok.mp hpure
        obtain ⟨rest, hrest, hlisted⟩ := ih (hread'.ends hends) hothers
        exact ⟨kinds ++ .punctuation .comma :: rest, by simpa using hread'.trans hrest,
          .cons hform hlisted⟩

theorem reads_blockOf (hitem : Sound item form) (hends : before.Ends)
    (h : blockOf item bound before = .ok items after) :
    ∃ kinds, before.Reads kinds after ∧ Repeated form kinds items := by
  induction bound generalizing before items with
  | zero =>
    obtain ⟨rfl, rfl⟩ := pure_eq_ok.mp h
    exact ⟨[], .refl before, .nil⟩
  | succ bound ih =>
    rw [blockOf, get_bind] at h
    split at h
    · obtain ⟨rfl, rfl⟩ := pure_eq_ok.mp h
      exact ⟨[], .refl before, .nil⟩
    · rw [get_bind] at h
      split at h
      · obtain ⟨_, _, hexpected, -⟩ := bind_eq_ok.mp h
        exact absurd hexpected expected_ne_ok
      · obtain ⟨first, middle, hfirst, h⟩ := bind_eq_ok.mp h
        obtain ⟨kinds, hread, hform⟩ := hitem hends hfirst
        obtain ⟨others, last, hothers, hpure⟩ := bind_eq_ok.mp h
        obtain ⟨rfl, rfl⟩ := pure_eq_ok.mp hpure
        obtain ⟨rest, hrest, hrepeated⟩ := ih (hread.ends hends) hothers
        exact ⟨kinds ++ rest, hread.trans hrest, .cons hform hrepeated⟩

/-- Behind the last item there is no token left. -/
theorem reads_untilEnd (hitem : Sound item form) (hne : ∀ value, ¬ form [] value)
    (hends : before.Ends) (hbound : before.rest.length < bound)
    (h : untilEnd item bound before = .ok items after) :
    after.rest = [] ∧ ∃ kinds, before.Reads kinds after ∧ Repeated form kinds items := by
  induction bound generalizing before items with
  | zero => omega
  | succ bound ih =>
    rw [untilEnd, get_bind] at h
    split at h
    · rename_i hempty
      obtain ⟨rfl, rfl⟩ := pure_eq_ok.mp h
      exact ⟨List.isEmpty_iff.mp hempty, [], .refl before, .nil⟩
    · obtain ⟨first, middle, hfirst, h⟩ := bind_eq_ok.mp h
      obtain ⟨kinds, hread, hform⟩ := hitem hends hfirst
      obtain ⟨others, last, hothers, hpure⟩ := bind_eq_ok.mp h
      obtain ⟨rfl, rfl⟩ := pure_eq_ok.mp hpure
      have hlength := hread.length_rest
      have hpos : 0 < kinds.length := List.length_pos_iff.mpr fun heq => hne first (heq ▸ hform)
      obtain ⟨hempty, rest, hrest, hrepeated⟩ := ih (hread.ends hends) (by omega) hothers
      exact ⟨hempty, kinds ++ rest, hread.trans hrest, .cons hform hrepeated⟩

end Lists

/-! ### Productions -/

theorem reads_pathTail {bound : Nat} {names : List String} (hends : before.Ends)
    (h : pathTail bound before = .ok names after) :
    ∃ kinds, before.Reads kinds after ∧
      ∀ name, PathForm (.identifier name :: kinds) (name :: names) := by
  induction bound generalizing before names with
  | zero =>
    obtain ⟨rfl, rfl⟩ := pure_eq_ok.mp h
    exact ⟨[], .refl before, fun _ => .last⟩
  | succ bound ih =>
    rw [pathTail] at h
    obtain ⟨found, middle, hskip, h⟩ := bind_eq_ok.mp h
    have hskipped := reads_skip hends hskip
    cases found with
    | false =>
      obtain ⟨rfl, rfl⟩ := pure_eq_ok.mp h
      exact ⟨[], hskipped, fun _ => .last⟩
    | true =>
      obtain ⟨segment, behind, hsegment, h⟩ := bind_eq_ok.mp h
      obtain ⟨others, last, hothers, hpure⟩ := bind_eq_ok.mp h
      obtain ⟨rfl, rfl⟩ := pure_eq_ok.mp hpure
      have hread := hskipped.trans (reads_identifier (hskipped.ends hends) hsegment)
      obtain ⟨kinds, htail, hpath⟩ := ih (hread.ends hends) hothers
      exact ⟨.punctuation .dot :: .identifier segment :: kinds, hread.trans htail,
        fun _ => .cons (hpath segment)⟩

theorem sound_path : Sound path PathForm := by
  intro before segments after hends h
  rw [path] at h
  obtain ⟨first, middle, hfirst, h⟩ := bind_eq_ok.mp h
  rw [bind_of_ok (fuel_eq middle)] at h
  obtain ⟨names, last, htail, hpure⟩ := bind_eq_ok.mp h
  obtain ⟨rfl, rfl⟩ := pure_eq_ok.mp hpure
  have hread := reads_identifier hends hfirst
  obtain ⟨kinds, htail, hpath⟩ := reads_pathTail (hread.ends hends) htail
  exact ⟨.identifier first :: kinds, hread.trans htail, hpath first⟩

theorem reads_number {negative : Bool} {value : Constant} (hends : before.Ends)
    (h : number negative before = .ok value after) :
    ∃ kind unsigned, before.Reads [kind] after ∧ NumberForm kind unsigned ∧
      value = if negative then unsigned.negate else unsigned := by
  by_cases hform : ∃ unsigned, NumberForm before.current.kind unsigned
  · obtain ⟨unsigned, hform⟩ := hform
    rw [number_of_kind hform] at h
    cases h
    exact ⟨_, unsigned, Cursor.reads_advance hends (by intro heq; rw [heq] at hform; cases hform),
      hform, rfl⟩
  · rw [number, get_bind] at h
    cases hkind : before.current.kind with
    | integer found => exact absurd ⟨_, by rw [hkind]; exact .integer⟩ hform
    | long found => exact absurd ⟨_, by rw [hkind]; exact .long⟩ hform
    | double found => exact absurd ⟨_, by rw [hkind]; exact .double⟩ hform
    | _ =>
      rw [hkind] at h
      cases h

theorem reads_literal {value : Constant} {start : Span} {result : Expr} (hends : before.Ends)
    (hkind : before.current.kind ≠ .endOfInput)
    (h : literal value start before = .ok result after) :
    before.Reads [before.current.kind] after ∧ result.eraseSpans = .constant value default := by
  rw [literal, bind_of_ok (advance_eq before), bind_of_ok (spanFrom_eq start before.advance)] at h
  cases h
  exact ⟨Cursor.reads_advance hends hkind, rfl⟩

/-- A number without its sign, as an expression. -/
theorem reads_unsigned {start : Span} {result : Expr} (hends : before.Ends)
    (h : (do return .constant (← number false) (← spanFrom start) : Parser Expr) before =
      .ok result after) :
    ∃ kinds, before.Reads kinds after ∧ ExprForm.under Expr.eraseSpans kinds result := by
  obtain ⟨value, last, hnumber, h⟩ := bind_eq_ok.mp h
  cases h
  obtain ⟨kind, unsigned, hread, hform, rfl⟩ := reads_number hends hnumber
  exact ⟨_, hread, .number hform⟩

section Nested

variable {expr : Parser Expr} (hexpr : Sound expr (ExprForm.under Expr.eraseSpans))

include hexpr

theorem sound_argument :
    Sound (argument expr) ((ArgumentForm ExprForm).under Argument.eraseSpans) := by
  intro before result after hends h
  rw [argument, get_bind] at h
  obtain ⟨name, middle, hlabel, h⟩ := bind_eq_ok.mp h
  obtain ⟨value, last, hvalue, hpure⟩ := bind_eq_ok.mp h
  obtain ⟨rfl, rfl⟩ := pure_eq_ok.mp hpure
  have hread := reads_label hends hlabel
  obtain ⟨kinds, hreadValue, hform⟩ := hexpr (hread.ends hends) hvalue
  refine ⟨labelKinds .colon name ++ kinds, hread.trans hreadValue, ?_⟩
  cases name with
  | none => exact .positional hform
  | some name => exact .named hform

theorem reads_callBehind {target method : String} {start : Span} {made : Call}
    (hends : before.Ends) (h : callBehind expr target method start before = .ok made after) :
    ∃ kinds,
      before.Reads (.punctuation .leftParen :: (kinds ++ [.punctuation .rightParen])) after ∧
      CallForm ExprForm (callKinds target method kinds) made.eraseSpans := by
  rw [callBehind] at h
  obtain ⟨⟨⟩, middle, hopen, h⟩ := bind_eq_ok.mp h
  have hreadOpen := reads_expect hends hopen
  have hends' := hreadOpen.ends hends
  rw [get_bind] at h
  split at h
  · obtain ⟨arguments, behind, hbare, hcall⟩ := bind_eq_ok.mp h
    obtain ⟨rfl, rfl⟩ := pure_eq_ok.mp hbare
    obtain ⟨⟨⟩, last, hclose, hmade⟩ := bind_eq_ok.mp hcall
    cases hmade
    exact ⟨[], hreadOpen.trans (reads_expect hends' hclose), .bare⟩
  · rw [bind_of_ok (fuel_eq middle)] at h
    obtain ⟨arguments, behind, harguments, h⟩ := bind_eq_ok.mp h
    obtain ⟨⟨⟩, last, hclose, h⟩ := bind_eq_ok.mp h
    cases h
    obtain ⟨kinds, hread, hform⟩ := reads_separated (sound_argument hexpr)
      (fun value h => h.ne_nil rfl) hends' (Nat.lt_succ_self _) harguments
    have hreadClose := reads_expect (hread.ends hends') hclose
    refine ⟨kinds, hreadOpen.trans (hread.trans hreadClose), ?_⟩
    rw [Call.eraseSpans, Call.mapSpans, mapArguments_eq_map]
    exact .arguments hform.map

theorem sound_call : Sound (call expr) ((CallForm ExprForm).under Call.eraseSpans) := by
  intro before made after hends h
  rw [call, get_bind] at h
  obtain ⟨target, first, htarget, h⟩ := bind_eq_ok.mp h
  obtain ⟨⟨⟩, second, hdot, h⟩ := bind_eq_ok.mp h
  obtain ⟨method, third, hmethod, h⟩ := bind_eq_ok.mp h
  have hread := reads_identifier hends htarget
  have hread := hread.trans (reads_expect (hread.ends hends) hdot)
  have hread := hread.trans (reads_identifier (hread.ends hends) hmethod)
  obtain ⟨kinds, hbehind, hform⟩ := reads_callBehind hexpr (hread.ends hends) h
  exact ⟨callKinds target method kinds, hread.trans hbehind, hform⟩

theorem sound_statement :
    Sound (statement expr) ((StatementForm ExprForm).under Call.eraseSpans) := by
  intro before made after hends h
  rw [statement] at h
  obtain ⟨called, middle, hcall, h⟩ := bind_eq_ok.mp h
  obtain ⟨⟨⟩, last, hsemicolon, hpure⟩ := bind_eq_ok.mp h
  obtain ⟨rfl, rfl⟩ := pure_eq_ok.mp hpure
  obtain ⟨kinds, hread, hform⟩ := sound_call hexpr hends hcall
  exact ⟨_, hread.trans (reads_expect (hread.ends hends) hsemicolon), .call hform⟩

theorem sound_member : Sound (member expr) ((MemberForm ExprForm).under Member.eraseSpans) := by
  intro before result after hends h
  rw [member, get_bind] at h
  obtain ⟨name, middle, hlabel, h⟩ := bind_eq_ok.mp h
  have hread := reads_label hends hlabel
  cases name with
  | some name =>
    obtain ⟨value, last, hvalue, hpure⟩ := bind_eq_ok.mp h
    obtain ⟨rfl, rfl⟩ := pure_eq_ok.mp hpure
    obtain ⟨kinds, hreadValue, hform⟩ := hexpr (hread.ends hends) hvalue
    exact ⟨_, hread.trans hreadValue, .named hform⟩
  | none =>
    obtain ⟨segments, last, hpath, hpure⟩ := bind_eq_ok.mp h
    rw [bind_of_ok (spanFrom_eq _ last)] at hpure
    obtain ⟨rfl, rfl⟩ := pure_eq_ok.mp hpure
    obtain ⟨kinds, hreadPath, hform⟩ := sound_path (hread.ends hends) hpath
    exact ⟨kinds, hread.trans hreadPath, .path hform⟩

theorem reads_newValue {start : Span} {result : Expr} (hends : before.Ends)
    (h : newValue expr start before = .ok result after) :
    ∃ kinds, before.Reads kinds after ∧ ExprForm (.keyword .new :: kinds) result.eraseSpans := by
  rw [newValue] at h
  obtain ⟨isArray, middle, hbracket, h⟩ := bind_eq_ok.mp h
  have hread := reads_skip hends hbracket
  cases isArray with
  | true =>
    obtain ⟨⟨⟩, first, hclose, h⟩ := bind_eq_ok.mp h
    obtain ⟨⟨⟩, second, hopen, h⟩ := bind_eq_ok.mp h
    rw [bind_of_ok (fuel_eq second)] at h
    obtain ⟨items, third, hitems, h⟩ := bind_eq_ok.mp h
    obtain ⟨⟨⟩, last, hend, h⟩ := bind_eq_ok.mp h
    cases h
    have hread := hread.trans (reads_expect (hread.ends hends) hclose)
    have hread := hread.trans (reads_expect (hread.ends hends) hopen)
    obtain ⟨kinds, hreadItems, hform⟩ := reads_listed hexpr (hread.ends hends) hitems
    have hread := hread.trans
      (hreadItems.trans (reads_expect (hreadItems.ends (hread.ends hends)) hend))
    refine ⟨_, hread, ?_⟩
    rw [Expr.eraseSpans, Expr.mapSpans, mapItems_eq_map]
    exact .array hform.map
  | false =>
    obtain ⟨isObject, first, hbrace, h⟩ := bind_eq_ok.mp h
    have hread := hread.trans (reads_skip (hread.ends hends) hbrace)
    cases isObject with
    | true =>
      rw [if_pos rfl, bind_of_ok (fuel_eq first)] at h
      obtain ⟨members, third, hmembers, h⟩ := bind_eq_ok.mp h
      obtain ⟨⟨⟩, last, hend, h⟩ := bind_eq_ok.mp h
      cases h
      obtain ⟨kinds, hreadMembers, hform⟩ :=
        reads_listed (sound_member hexpr) (hread.ends hends) hmembers
      have hread := hread.trans
        (hreadMembers.trans (reads_expect (hreadMembers.ends (hread.ends hends)) hend))
      refine ⟨_, hread, ?_⟩
      rw [Expr.eraseSpans, Expr.mapSpans, mapMembers_eq_map]
      exact .object hform.map
    | false => cases h

theorem reads_functionBehind {parameter : String} {start : Span} {result : Expr}
    (hends : before.Ends) (h : functionBehind expr parameter start before = .ok result after) :
    ∃ kinds, before.Reads kinds after ∧
      ExprForm (functionKinds parameter kinds) result.eraseSpans := by
  rw [functionBehind] at h
  obtain ⟨isBlock, middle, hbrace, h⟩ := bind_eq_ok.mp h
  have hread := reads_skip hends hbrace
  cases isBlock with
  | true =>
    rw [if_pos rfl, bind_of_ok (fuel_eq middle)] at h
    obtain ⟨statements, third, hstatements, h⟩ := bind_eq_ok.mp h
    obtain ⟨⟨⟩, last, hend, h⟩ := bind_eq_ok.mp h
    cases h
    obtain ⟨kinds, hreadStatements, hform⟩ :=
      reads_blockOf (sound_statement hexpr) (hread.ends hends) hstatements
    have hread := hread.trans
      (hreadStatements.trans (reads_expect (hreadStatements.ends (hread.ends hends)) hend))
    refine ⟨_, hread, ?_⟩
    rw [Expr.eraseSpans, Expr.mapSpans, mapCalls_eq_map]
    exact .block hform.map
  | false =>
    obtain ⟨body, last, hbody, h⟩ := bind_eq_ok.mp h
    cases h
    obtain ⟨kinds, hreadBody, hform⟩ := hexpr (hread.ends hends) hbody
    exact ⟨kinds, hread.trans hreadBody, .function hform⟩

theorem sound_pathOrCall {start : Span} :
    Sound (pathOrCall expr start) (ExprForm.under Expr.eraseSpans) := by
  intro before result after hends h
  rw [pathOrCall] at h
  obtain ⟨segments, middle, hpath, h⟩ := bind_eq_ok.mp h
  obtain ⟨kinds, hread, hform⟩ := sound_path hends hpath
  rw [get_bind] at h
  split at h
  · rcases segments with - | ⟨target, - | ⟨method, - | ⟨third, others⟩⟩⟩
    · cases h
    · cases h
    · obtain ⟨made, last, hcall, hpure⟩ := bind_eq_ok.mp h
      obtain ⟨rfl, rfl⟩ := pure_eq_ok.mp hpure
      obtain ⟨arguments, hreadCall, hcallForm⟩ :=
        reads_callBehind hexpr (hread.ends hends) hcall
      cases hform with
      | cons hform =>
        cases hform with
        | last => exact ⟨_, hread.trans hreadCall, .call hcallForm⟩
        | cons hform => cases hform
    · cases h
  · rw [bind_of_ok (spanFrom_eq start middle)] at h
    obtain ⟨rfl, rfl⟩ := pure_eq_ok.mp h
    exact ⟨kinds, hread, .path hform⟩

end Nested

theorem sound_expression (depth : Nat) :
    Sound (expression depth) (ExprForm.under Expr.eraseSpans) := by
  induction depth with
  | zero => exact fun before value after _ h => absurd h expected_ne_ok
  | succ depth ih =>
    intro before result after hends h
    rw [expression, get_bind, get_bind] at h
    -- The first token alone decides the branch; the tokens that start no expression fail at once.
    cases hkind : before.current.kind with
    | string value =>
      rw [hkind] at h
      obtain ⟨hread, heq⟩ := reads_literal hends (by rw [hkind]; simp) h
      rw [hkind] at hread
      exact ⟨_, hread, by rw [Form.under, heq]; exact .string⟩
    | integer value =>
      rw [hkind] at h
      exact reads_unsigned hends h
    | long value =>
      rw [hkind] at h
      exact reads_unsigned hends h
    | double value =>
      rw [hkind] at h
      exact reads_unsigned hends h
    | keyword word =>
      have hne : before.current.kind ≠ .endOfInput := by rw [hkind]; simp
      rw [hkind] at h
      cases word with
      | new =>
        have hread := Cursor.reads_advance hends hne
        rw [hkind] at hread
        obtain ⟨kinds, hreadBehind, hform⟩ := reads_newValue ih (hread.ends hends) h
        exact ⟨_, hread.trans hreadBehind, hform⟩
      | true =>
        obtain ⟨hread, heq⟩ := reads_literal hends hne h
        rw [hkind] at hread
        exact ⟨_, hread, by rw [Form.under, heq]; exact .true⟩
      | false =>
        obtain ⟨hread, heq⟩ := reads_literal hends hne h
        rw [hkind] at hread
        exact ⟨_, hread, by rw [Form.under, heq]; exact .false⟩
      | null =>
        obtain ⟨hread, heq⟩ := reads_literal hends hne h
        rw [hkind] at hread
        exact ⟨_, hread, by rw [Form.under, heq]; exact .null⟩
    | punctuation mark =>
      have hne : before.current.kind ≠ .endOfInput := by rw [hkind]; simp
      rw [hkind] at h
      cases mark with
      | minus =>
        obtain ⟨_, middle, hadvance, h⟩ := bind_eq_ok.mp h
        cases hadvance
        obtain ⟨value, last, hnumber, h⟩ := bind_eq_ok.mp h
        cases h
        have hread := Cursor.reads_advance hends hne
        rw [hkind] at hread
        obtain ⟨kind, unsigned, hreadNumber, hform, rfl⟩ := reads_number (hread.ends hends) hnumber
        exact ⟨_, hread.trans hreadNumber, .negative hform⟩
      | _ => cases h
    | identifier name =>
      rw [hkind] at h
      obtain ⟨parameter, middle, hlabel, h⟩ := bind_eq_ok.mp h
      have hread := reads_label hends hlabel
      cases parameter with
      | some parameter =>
        obtain ⟨kinds, hreadBehind, hform⟩ := reads_functionBehind ih (hread.ends hends) h
        exact ⟨_, hread.trans hreadBehind, hform⟩
      | none =>
        obtain ⟨kinds, hreadPath, hform⟩ := sound_pathOrCall ih (hread.ends hends) h
        exact ⟨kinds, hread.trans hreadPath, hform⟩
    | endOfInput =>
      rw [hkind] at h
      cases h
    | invalid error =>
      rw [hkind] at h
      cases h

theorem sound_nextStatement :
    Sound nextStatement ((StatementForm ExprForm).under Call.eraseSpans) := by
  intro before made after hends h
  rw [nextStatement, bind_of_ok (fuel_eq before)] at h
  exact sound_statement (sound_expression _) hends h

/-- The reader of a script reads all tokens, and their kinds are those of a script. -/
theorem program_sound {statements : List Call} (hends : before.Ends)
    (h : program before = .ok statements after) :
    ProgramForm before.kinds (statements.map Call.eraseSpans) := by
  rw [program, bind_of_ok (fuel_eq before)] at h
  obtain ⟨hempty, kinds, hread, hform⟩ := reads_untilEnd sound_nextStatement
    (fun value h => h.ne_nil rfl) hends (Nat.lt_succ_self _) h
  have hkinds := hread.kinds_eq
  rw [Cursor.kinds.eq_1 after, hempty, List.map_nil, List.append_nil] at hkinds
  rw [hkinds]
  exact hform.map

end Parser

end MigrationScript
