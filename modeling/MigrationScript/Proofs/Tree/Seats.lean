import MigrationScript.Proofs.Tree.Node
import MigrationScript.Proofs.Tree.Parse
import MigrationScript.Proofs.Tree.Shared

/-!
# Where readers put nodes

While a reader runs, the nodes that it has made so far lie on the tokens that it has read (`Laid`).
A reader of a node adds the node, and a reader of a list each of its items.
-/

namespace MigrationScript

/-! ### The bytes that have been read -/

section Hulls

variable {before after : Cursor} {read front run : List Token}

theorem Cursor.Passes.head?_eq (h : before.Passes read after) (hne : read ≠ []) :
    read.head? = some before.current := by
  obtain ⟨token, read, rfl⟩ := List.exists_cons_of_ne_nil hne
  rw [Cursor.current, h.rest_eq]
  rfl

theorem Cursor.Passes.hull_eq (h : before.Passes read after) (hne : read ≠ [])
    (hspaced : Spaced before.rest) : before.current.span.merge after.previous = hull read := by
  rw [h.rest_eq] at hspaced
  have hlast := List.getLast?_eq_some_getLast hne
  rw [h.previous_eq, hlast]
  exact hspaced.of_append_left.merge_eq (h.head?_eq hne) hlast

/-- What starts with the first token and reaches as far as the last tokens takes all of them. -/
theorem Cursor.Passes.merge_hull (h : before.Passes (front ++ run) after) (hne : run ≠ [])
    (hspaced : Spaced before.rest) :
    before.current.span.merge (hull run) = hull (front ++ run) := by
  have hall : front ++ run ≠ [] := List.append_ne_nil_of_right_ne_nil front hne
  have hlast := List.getLast?_eq_some_getLast hne
  have hstop : (hull (front ++ run)).stop = (hull run).stop := by
    rw [hull_stop hlast, hull_stop (List.getLast?_append_of_ne_nil front hne ▸ hlast)]
  have hfirst := h.head?_eq hall
  rw [h.rest_eq] at hspaced
  obtain ⟨-, hle⟩ := hspaced.of_append_left.bounds _ (List.mem_of_head? hfirst)
  obtain ⟨hstart, -⟩ := hspaced.of_append_left.bounds _
    (List.mem_append_right front (List.head_mem hne))
  rw [hstop] at hle
  rw [← hull_start (List.head?_eq_some_head hne), hull_start hfirst] at hstart
  rw [Span.merge, Nat.min_eq_left hstart, Nat.max_eq_right hle, ← hull_start hfirst, ← hstop]

end Hulls

namespace Parser

variable {α β : Type} {parser : Parser α} {further : α → Parser β} {bound : Nat}
  {origin before after : Cursor} {nodes : List Node}

/-! ### From places to places -/

/-- The parser leads from a place of the first kind to one of the second, unless it fails. -/
def Leads (pre : Cursor → Prop) (parser : Parser α) (post : α → Cursor → Prop) : Prop :=
  ∀ ⦃before value after⦄, pre before → parser before = .ok value after → post value after

section Steps

variable {pre : Cursor → Prop} {middle post : α → Cursor → Prop} {last : β → Cursor → Prop}

theorem Leads.bind (h : Leads pre parser middle)
    (hfurther : ∀ value, Leads (middle value) (further value) last) :
    Leads pre (parser >>= further) last := by
  intro before result after hpre hresult
  obtain ⟨value, between, hvalue, hrest⟩ := bind_eq_ok.mp hresult
  exact hfurther value (h hpre hvalue) hrest

theorem leads_pure {value : α} (h : ∀ cursor, pre cursor → post value cursor) :
    Leads pre (pure value) post := by
  intro before result after hpre hresult
  obtain ⟨rfl, rfl⟩ := pure_eq_ok.mp hresult
  exact h _ hpre

theorem leads_expected {expectation : Expectation} : Leads pre (expected expectation) post :=
  fun _ _ _ _ h => absurd h expected_ne_ok

theorem leads_get_bind {further : Cursor → Parser β}
    (h : ∀ cursor, Leads pre (further cursor) last) : Leads pre (get >>= further) last :=
  fun before _ _ hpre hresult => h before hpre hresult

theorem leads_fuel_bind {further : Nat → Parser β}
    (h : ∀ count, Leads pre (further count) last) : Leads pre (fuel >>= further) last :=
  leads_get_bind fun cursor => h (cursor.rest.length + 1)

theorem leads_ite {condition : Prop} [Decidable condition] {other : Parser α}
    (h : Leads pre parser post) (hother : Leads pre other post) :
    Leads pre (if condition then parser else other) post := by
  split
  · exact h
  · exact hother

end Steps

/-! ### Nodes among the tokens that have been read -/

/-- Fewer tokens than the bound are left, one behind the other, and behind them the end. -/
structure Stands (bound : Nat) (cursor : Cursor) : Prop where
  ends : cursor.Ends
  lt : cursor.rest.length < bound
  spaced : Spaced cursor.rest

theorem Stands.passes {read : List Token} (h : Stands bound before)
    (hread : before.Passes read after) : Stands bound after := by
  have hlength := hread.length_rest
  have hlt := h.lt
  have hspaced := h.spaced
  rw [hread.rest_eq] at hspaced
  exact ⟨hread.ends h.ends, by omega, hspaced.of_append_right⟩

/-- Among the tokens that have been read since the origin stand those of the nodes. -/
structure Laid (bound : Nat) (origin : Cursor) (nodes : List Node) (cursor : Cursor) : Prop where
  stands : Stands bound cursor
  parts : ∃ read, origin.Passes read cursor ∧ Parts Sits read nodes

theorem Laid.passes {read : List Token} {others : List Node} (h : Laid bound origin nodes before)
    (hread : before.Passes read after) (hothers : Parts Sits read others) :
    Laid bound origin (nodes ++ others) after := by
  obtain ⟨front, hfront, hnodes⟩ := h.parts
  exact ⟨h.stands.passes hread, front ++ read, hfront.trans hread, hnodes.append hothers⟩

theorem Stands.laid (h : Stands bound before) : Laid bound before [] before :=
  ⟨h, [], .refl before, .nil⟩

/-- Behind a token fewer are left. -/
theorem Stands.laid_behind {read : List Token} (h : Stands (bound + 1) before)
    (hread : before.Passes read after) (hne : read ≠ []) : Laid bound before [] after := by
  have hlength := hread.length_rest
  have hpos := List.length_pos_iff.mpr hne
  have hlt := h.lt
  obtain ⟨hends, -, hspaced⟩ := h.passes hread
  exact ⟨⟨hends, by omega, hspaced⟩, read, hread, .nil⟩

/-- The parser reads the tokens of the node that it makes and no others. -/
def Seats (bound : Nat) (parser : Parser α) (make : α → Node) : Prop :=
  ∀ ⦃before value after⦄, Stands bound before → parser before = .ok value after →
    ∃ read, before.Passes read after ∧ Sits read (make value)

/-- Behind the nodes that have been read the parser reads those that it gives. -/
def Adds (bound : Nat) (origin : Cursor) (parser : Parser α) (given : α → List Node) : Prop :=
  ∀ nodes, Leads (Laid bound origin nodes) parser
    fun value => Laid bound origin (nodes ++ given value)

theorem Moves.passes {value : α} (h : Moves parser) (hvalue : parser before = .ok value after) :
    ∃ read, before.Passes read after := by
  obtain ⟨read, hread⟩ := h before
  rw [hvalue] at hread
  exact ⟨read, hread⟩

theorem Moves.leads (h : Moves parser) :
    Leads (Laid bound origin nodes) parser fun _ => Laid bound origin nodes := by
  intro before value after hlaid hvalue
  obtain ⟨read, hread⟩ := h.passes hvalue
  have hafter := hlaid.passes hread .nil
  rwa [List.append_nil] at hafter

theorem Tracks.leads (h : Tracks 0 parser) :
    Leads (Laid bound origin nodes) parser fun _ => Laid bound origin nodes :=
  h.moves.leads

theorem Seats.adds {make : α → Node} (h : Seats bound parser make) :
    Adds bound origin parser fun value => [make value] := by
  intro nodes before value after hlaid hvalue
  obtain ⟨read, hread, hsits⟩ := h hlaid.stands hvalue
  exact hlaid.passes hread (.single hsits)

/-! ### Lists -/

section Lists

variable {item : Parser α} {make : α → Node} {count : Nat}
  (hitem : Adds bound origin item fun value => [make value])

include hitem

theorem adds_separated : Adds bound origin (separated item count) (·.map make) := by
  induction count with
  | zero => exact fun nodes => leads_pure fun _ h => (List.append_nil nodes).symm ▸ h
  | succ count ih =>
    refine fun nodes => (hitem nodes).bind fun first => tracks_skip.leads.bind fun found => ?_
    refine leads_ite ((ih _).bind fun others => leads_pure fun _ h => ?_)
      (leads_pure fun _ h => h)
    rwa [List.append_assoc] at h

theorem adds_listed : Adds bound origin (listed item count) (·.map make) := by
  induction count with
  | zero => exact fun nodes => leads_pure fun _ h => (List.append_nil nodes).symm ▸ h
  | succ count ih =>
    refine fun nodes => leads_get_bind fun cursor => leads_ite
      (leads_pure fun _ h => (List.append_nil nodes).symm ▸ h) ?_
    refine (hitem nodes).bind fun first => tracks_skip.leads.bind fun found => ?_
    refine leads_ite ((ih _).bind fun others => leads_pure fun _ h => ?_)
      (leads_pure fun _ h => h)
    rwa [List.append_assoc] at h

theorem adds_blockOf : Adds bound origin (blockOf item count) (·.map make) := by
  induction count with
  | zero => exact fun nodes => leads_pure fun _ h => (List.append_nil nodes).symm ▸ h
  | succ count ih =>
    have hmore (nodes : List Node) : Leads (Laid bound origin nodes)
        (do let first ← item; return first :: (← blockOf item count))
        fun items => Laid bound origin (nodes ++ items.map make) := by
      refine (hitem nodes).bind fun first => (ih _).bind fun others => leads_pure fun _ h => ?_
      rwa [List.append_assoc] at h
    refine fun nodes => leads_get_bind fun cursor => leads_ite
      (leads_pure fun _ h => (List.append_nil nodes).symm ▸ h) ?_
    exact leads_get_bind fun cursor => leads_ite
      (leads_expected.bind fun _ => hmore nodes) (hmore nodes)

theorem adds_untilEnd : Adds bound origin (untilEnd item count) (·.map make) := by
  induction count with
  | zero => exact fun nodes => leads_pure fun _ h => (List.append_nil nodes).symm ▸ h
  | succ count ih =>
    refine fun nodes => leads_get_bind fun cursor => leads_ite
      (leads_pure fun _ h => (List.append_nil nodes).symm ▸ h) ?_
    refine (hitem nodes).bind fun first => (ih _).bind fun others => leads_pure fun _ h => ?_
    rwa [List.append_assoc] at h

end Lists

/-! ### A call on its own -/

/-- A statement up to the end of the tokens. -/
theorem untilEnd_statement {depth count : Nat} {made : Call} {semicolon : Token}
    (hcall : call (expression depth) before = .ok made after) (hrest : after.rest = [semicolon])
    (hne : before.rest ≠ []) (hsemicolon : semicolon.kind = .punctuation .semicolon) :
    outcome (untilEnd (statement (expression depth)) (count + 1) before) = .ok [made] := by
  have hkind : after.current.kind = .punctuation .semicolon := by
    rw [Cursor.current, hrest]
    exact hsemicolon
  have hstatement : statement (expression depth) before = .ok made after.advance := by
    rw [statement, bind_of_ok hcall, bind_of_ok (expect_of_kind hkind)]
    rfl
  have hend : untilEnd (statement (expression depth)) count after.advance =
      .ok [] after.advance := by
    cases count with
    | zero => rfl
    | succ count =>
      rw [untilEnd, get_bind, if_pos (by rw [Cursor.rest_advance, hrest]; rfl)]
      rfl
  rw [untilEnd, get_bind, if_neg (by rwa [List.isEmpty_iff]), bind_of_ok hstatement,
    bind_of_ok hend]
  rfl

/-- The tokens that have been read as a call are read as that call, whatever stands behind them. -/
theorem alone_of_call {depth : Nat} {made : Call} {read : List Token} (hends : before.Ends)
    (hlt : before.rest.length < depth + 1) (h : call (expression depth) before = .ok made after)
    (hread : before.Passes read after) : Alone read made := by
  obtain ⟨bound, hdepth, hbound⟩ : ∃ bound, depth ≤ bound ∧ read.length + 1 < bound :=
    ⟨depth + read.length + 2, by omega, by omega⟩
  -- The call is also read from its own tokens, with nothing behind them.
  obtain ⟨kinds, hkinds, hform⟩ := sound_call (sound_expression depth) hends h
  rw [← hread.kinds_eq hkinds] at hform
  have hends' : (Cursor.mk read before.finish before.previous).Ends := hends
  have hat : (Cursor.mk read before.finish before.previous).At (read.map (·.kind) ++ []) :=
    ⟨hends, (List.append_nil _).symm⟩
  obtain ⟨made', last, hmade', -, hlast⟩ := covers_call (covers_expression bound) hform
    (by rw [List.length_map]; omega) trivial hat
  have hsame := (local_call local_expression hends' hmade').2.2 (Nat.zero_le _)
  -- In front of the tokens that stand behind it it is the call that has been read there.
  have hmade := hsame after.rest before.finish
  rw [Cursor.followed, ← hread.rest_eq, ← agrees_call (agrees_expression hdepth)
    (sound_expression depth) hends hlt, h] at hmade
  obtain ⟨rfl, -⟩ := EStateM.Result.ok.inj hmade
  intro semicolon finish previous hsemicolon hfinish
  have hends'' : (Cursor.mk (read ++ [semicolon]) finish previous).Ends := hfinish
  have hlength : (read ++ [semicolon]).length < bound := by
    rw [List.length_append, List.length_singleton]
    exact hbound
  rw [parseFrom, program_eq_of_lt hends'' hlength (Nat.lt_succ_of_lt hlength),
    outcome_untilEnd_previous _ _ _ _ previous before.previous]
  refine untilEnd_statement (hsame [semicolon] finish) ?_ ?_ hsemicolon
  · rw [Cursor.followed, List.map_eq_nil_iff.mp hlast.kinds_eq, List.nil_append]
  · exact List.append_ne_nil_of_right_ne_nil read (List.cons_ne_nil _ _)

/-- Names behind a first one, with a point in front of each. -/
theorem pathTail_eq_ok {count : Nat} {names : List String}
    (h : pathTail count before = .ok names after) :
    (names = [] ∧ after = before) ∨ ∃ name others middle last, names = name :: others ∧
      expect .dot before = .ok () middle ∧ identifier middle = .ok name last ∧
        ∃ count, pathTail count last = .ok others after := by
  cases count with
  | zero =>
    obtain ⟨rfl, rfl⟩ := pure_eq_ok.mp h
    exact .inl ⟨rfl, rfl⟩
  | succ count =>
    by_cases hdot : before.current.kind = .punctuation .dot
    · rw [pathTail, bind_of_ok (skip_of_kind hdot), if_pos rfl] at h
      obtain ⟨name, last, hname, h⟩ := bind_eq_ok.mp h
      obtain ⟨others, behind, hothers, hpure⟩ := bind_eq_ok.mp h
      obtain ⟨rfl, rfl⟩ := pure_eq_ok.mp hpure
      exact .inr ⟨name, others, _, last, rfl, expect_of_kind hdot, hname, count, hothers⟩
    · rw [pathTail, bind_of_ok (skip_of_kind_ne hdot), if_neg Bool.false_ne_true] at h
      obtain ⟨rfl, rfl⟩ := pure_eq_ok.mp h
      exact .inl ⟨rfl, rfl⟩

/-- A path of two names with arguments behind it is read as a call. -/
theorem call_of_path {expr : Parser Expr} {target method : String} {made : Call} {middle : Cursor}
    (hpath : path before = .ok [target, method] middle)
    (h : callBehind expr target method before.current.span middle = .ok made after) :
    call expr before = .ok made after := by
  rw [path] at hpath
  obtain ⟨first, front, hfirst, hpath⟩ := bind_eq_ok.mp hpath
  obtain ⟨names, behind, hnames, hpure⟩ := bind_eq_ok.mp (bind_of_ok (fuel_eq front) ▸ hpath)
  obtain ⟨hsegments, rfl⟩ := pure_eq_ok.mp hpure
  obtain ⟨rfl, rfl⟩ := List.cons.inj hsegments
  obtain ⟨hnil, -⟩ | ⟨second, others, dotted, named, hsecond, hdot, hmethod, _, hend⟩ :=
    pathTail_eq_ok hnames
  · cases hnil
  obtain ⟨rfl, rfl⟩ := List.cons.inj hsecond
  obtain ⟨-, rfl⟩ | ⟨_, _, _, _, hthird, -⟩ := pathTail_eq_ok hend
  · rw [call, get_bind, bind_of_ok hfirst, bind_of_ok hdot, bind_of_ok hmethod, h]
  · cases hthird

theorem pathOrCall_eq_ok {expr : Parser Expr} {value : Expr}
    (h : pathOrCall expr before.current.span before = .ok value after) :
    (∃ made, value = .call made ∧ call expr before = .ok made after) ∨
      ∃ segments, value = .path segments (after.spanFrom before.current.span) ∧
        path before = .ok segments after := by
  rw [pathOrCall] at h
  obtain ⟨segments, middle, hpath, h⟩ := bind_eq_ok.mp h
  rw [get_bind] at h
  split at h
  · rcases segments with - | ⟨target, - | ⟨method, - | ⟨third, others⟩⟩⟩
    · cases h
    · cases h
    · obtain ⟨made, last, hmade, hpure⟩ := bind_eq_ok.mp h
      obtain ⟨rfl, rfl⟩ := pure_eq_ok.mp hpure
      exact .inl ⟨made, rfl, call_of_path hpath hmade⟩
    · cases h
  · cases h
    exact .inr ⟨segments, rfl, hpath⟩

/-! ### Productions -/

/-- The nodes below the node stand behind others, and it reaches from the start to the token that
was read last. -/
def Spans (bound : Nat) (origin : Cursor) (nodes : List Node) (start : Span) (node : Node)
    (cursor : Cursor) : Prop :=
  Laid bound origin (nodes ++ node.children) cursor ∧ node.span = start.merge cursor.previous

theorem Spans.sits {node : Node} {kinds : List TokenKind} (hspaced : Spaced before.rest)
    (h : Spans bound before [] before.current.span node after) (hkinds : before.Reads kinds after)
    (hform : node.SpeltBy kinds) :
    ∃ read, before.Passes read after ∧
      ((∀ made, node = .call made → Alone read made) → Sits read node) := by
  obtain ⟨hlaid, hspan⟩ := h
  obtain ⟨read, hread, hparts⟩ := hlaid.parts
  rw [← hread.kinds_eq hkinds] at hform
  have hne : read ≠ [] := by
    rintro rfl
    exact hform.ne_nil rfl
  rw [hread.hull_eq hne hspaced] at hspan
  exact ⟨read, hread, fun halone => .node hform hspan halone hparts⟩

theorem leads_spanFrom {start : Span} {make : Span → α} {post : α → Cursor → Prop}
    (h : ∀ cursor, Laid bound origin nodes cursor →
      post (make (start.merge cursor.previous)) cursor) :
    Leads (Laid bound origin nodes) (do return make (← spanFrom start)) post := by
  intro before value after hlaid hvalue
  cases hvalue
  exact h before hlaid

theorem leads_close {mark : Punctuation} {start : Span} {make : Span → α}
    {post : α → Cursor → Prop}
    (h : ∀ cursor, Laid bound origin nodes cursor →
      post (make (start.merge cursor.previous)) cursor) :
    Leads (Laid bound origin nodes) (do expect mark; return make (← spanFrom start)) post :=
  tracks_expect.leads.bind fun _ => leads_spanFrom h

section Nested

variable {depth : Nat} (hexpr : Seats depth (expression depth) .expr)

include hexpr

/-- A value that is read last reaches as far as the last token. -/
theorem leads_value (hspaced : Spaced origin.rest) :
    Leads (Laid depth origin []) (expression depth) fun value cursor =>
      Laid depth origin [.expr value] cursor ∧
        origin.current.span.merge value.span = origin.current.span.merge cursor.previous := by
  intro before value after hlaid hvalue
  obtain ⟨run, hrun, hsits⟩ := hexpr hlaid.stands hvalue
  obtain ⟨front, hfront, -⟩ := hlaid.parts
  have hread := hfront.trans hrun
  have hne := hsits.ne_nil
  refine ⟨hlaid.passes hrun (.single hsits), ?_⟩
  have hspan : value.span = hull run := hsits.span_eq
  rw [hspan, hread.merge_hull hne hspaced,
    hread.hull_eq (List.append_ne_nil_of_right_ne_nil front hne) hspaced]

theorem seats_argument : Seats depth (argument (expression depth)) .argument := by
  intro before given after hstands hgiven
  have hread (name : Option String) : Leads (Laid depth before [])
      (do
        let value ← expression depth
        return ⟨name, value, before.current.span.merge value.span⟩)
      fun given => Spans depth before [] before.current.span (.argument given) :=
    (leads_value hexpr hstands.spaced).bind fun value => leads_pure fun _ h => h
  have hspans := Leads.bind moves_label.leads hread hstands.laid hgiven
  obtain ⟨kinds, hkinds, hform⟩ := sound_argument (sound_expression depth) hstands.ends hgiven
  obtain ⟨read, hread, hsits⟩ := hspans.sits hstands.spaced hkinds hform
  exact ⟨read, hread, hsits (by simp)⟩

theorem seats_member : Seats depth (member (expression depth)) .member := by
  intro before part after hstands hpart
  obtain ⟨name, middle, hlabel, hbehind⟩ := bind_eq_ok.mp ((get_bind _).symm.trans hpart)
  have hlaid : Laid depth before [] middle := moves_label.leads hstands.laid hlabel
  have hspans : Spans depth before [] before.current.span (.member part) after := by
    cases name with
    | some name =>
      have hread : Leads (Laid depth before [])
          (do
            let value ← expression depth
            return Member.named name value (before.current.span.merge value.span))
          fun part => Spans depth before [] before.current.span (.member part) :=
        (leads_value hexpr hstands.spaced).bind fun value => leads_pure fun _ h => h
      exact hread hlaid hbehind
    | none =>
      have hread : Leads (Laid depth before [])
          (do
            let segments ← path
            return Member.path segments (← spanFrom before.current.span))
          fun part => Spans depth before [] before.current.span (.member part) :=
        tracks_path.leads.bind fun segments => leads_spanFrom fun _ h => ⟨h, rfl⟩
      exact hread hlaid hbehind
  obtain ⟨kinds, hkinds, hform⟩ := sound_member (sound_expression depth) hstands.ends hpart
  obtain ⟨read, hread, hsits⟩ := hspans.sits hstands.spaced hkinds hform
  exact ⟨read, hread, hsits (by simp)⟩

theorem leads_callBehind {target method : String} {start : Span} :
    Leads (Laid depth origin nodes) (callBehind (expression depth) target method start)
      fun made => Spans depth origin nodes start (.call made) := by
  refine tracks_expect.leads.bind fun _ => leads_get_bind fun cursor => leads_ite ?_ ?_
  · exact leads_close fun cursor hlaid => ⟨hlaid.passes (.refl cursor) .nil, rfl⟩
  · refine leads_fuel_bind fun count => ?_
    refine (adds_separated (seats_argument hexpr).adds nodes).bind fun arguments => ?_
    exact leads_close fun cursor hlaid => ⟨hlaid, rfl⟩

/-- The target takes a token, so that one token more may be left. -/
theorem seats_call : Seats (depth + 1) (call (expression depth)) .call := by
  intro before made after hstands hmade
  have hspans : Spans depth before [] before.current.span (.call made) after := by
    obtain ⟨target, middle, htarget, hbehind⟩ := bind_eq_ok.mp ((get_bind _).symm.trans hmade)
    have hidentifier : Tracks 0 identifier := tracks_identifier
    obtain ⟨read, hread⟩ := hidentifier.moves.passes htarget
    have hne : read ≠ [] := by
      rintro rfl
      cases hread.kinds_eq (reads_identifier hstands.ends htarget)
    have hrest : Leads (Laid depth before [])
        (do expect .dot; let method ← identifier
            callBehind (expression depth) target method before.current.span)
        fun made => Spans depth before [] before.current.span (.call made) :=
      tracks_expect.leads.bind fun _ => hidentifier.leads.bind fun method => leads_callBehind hexpr
    exact hrest (hstands.laid_behind hread hne) hbehind
  obtain ⟨kinds, hkinds, hform⟩ := sound_call (sound_expression depth) hstands.ends hmade
  obtain ⟨read, hread, hsits⟩ := hspans.sits hstands.spaced hkinds hform
  refine ⟨read, hread, hsits fun made hnode => ?_⟩
  cases hnode
  exact alone_of_call hstands.ends hstands.lt hmade hread

theorem adds_statement :
    Adds depth origin (statement (expression depth)) fun made => [.call made] := by
  have hcall : Seats depth (call (expression depth)) .call := fun _ _ _ hstands =>
    seats_call hexpr ⟨hstands.ends, Nat.lt_succ_of_lt hstands.lt, hstands.spaced⟩
  exact fun nodes => (hcall.adds nodes).bind fun made => tracks_expect.leads.bind fun _ =>
    leads_pure fun _ h => h

theorem leads_newValue {start : Span} :
    Leads (Laid depth origin []) (newValue (expression depth) start)
      fun value => Spans depth origin [] start (.expr value) := by
  refine tracks_skip.leads.bind fun found => leads_ite ?_ ?_
  · refine tracks_expect.leads.bind fun _ => tracks_expect.leads.bind fun _ =>
      leads_fuel_bind fun count => ?_
    refine (adds_listed hexpr.adds []).bind fun items => ?_
    exact leads_close fun cursor hlaid => ⟨hlaid, rfl⟩
  · refine tracks_skip.leads.bind fun found => leads_ite ?_ leads_expected
    refine leads_fuel_bind fun count => ?_
    refine (adds_listed (seats_member hexpr).adds []).bind fun members => ?_
    exact leads_close fun cursor hlaid => ⟨hlaid, rfl⟩

theorem leads_functionBehind {parameter : String} {start : Span} :
    Leads (Laid depth origin []) (functionBehind (expression depth) parameter start)
      fun value => Spans depth origin [] start (.expr value) := by
  refine tracks_skip.leads.bind fun found => leads_ite ?_ ?_
  · refine leads_fuel_bind fun count => ?_
    refine (adds_blockOf (adds_statement hexpr) []).bind fun statements => ?_
    exact leads_close fun cursor hlaid => ⟨hlaid, rfl⟩
  · refine (hexpr.adds []).bind fun body => ?_
    exact leads_spanFrom fun cursor hlaid => ⟨hlaid, rfl⟩

theorem spans_pathOrCall {value : Expr} (hstands : Stands (depth + 1) before)
    (h : pathOrCall (expression depth) before.current.span before = .ok value after) :
    Spans (depth + 1) before [] before.current.span (.expr value) after := by
  obtain ⟨made, rfl, hmade⟩ | ⟨segments, rfl, hpath⟩ := pathOrCall_eq_ok h
  · obtain ⟨read, hread, hsits⟩ := seats_call hexpr hstands hmade
    refine ⟨hstands.laid.passes hread (.single hsits), ?_⟩
    rw [hread.hull_eq hsits.ne_nil hstands.spaced]
    exact hsits.span_eq
  · exact ⟨tracks_path.leads hstands.laid hpath, rfl⟩

end Nested

theorem leads_literal {value : Constant} {start : Span} :
    Leads (Laid bound origin []) (literal value start)
      fun value => Spans bound origin [] start (.expr value) :=
  tracks_advance.leads.bind fun _ => leads_spanFrom fun _ h => ⟨h, rfl⟩

theorem leads_number {negative : Bool} {start : Span} :
    Leads (Laid bound origin [])
      (do return Expr.constant (← number negative) (← spanFrom start))
      fun value => Spans bound origin [] start (.expr value) :=
  tracks_number.leads.bind fun _ => leads_spanFrom fun _ h => ⟨h, rfl⟩

theorem label_none {mark : Punctuation} (h : label mark before = .ok none after) :
    after = before := by
  by_cases hlabel : ∃ name, Labelled mark name before
  · obtain ⟨name, hlabel⟩ := hlabel
    rw [label_of_labelled hlabel] at h
    cases h
  · rw [label_of_not_labelled (not_exists.mp hlabel)] at h
    cases h
    rfl

theorem spans_expression {depth : Nat} {value : Expr} (hexpr : Seats depth (expression depth) .expr)
    (hstands : Stands (depth + 1) before) (h : expression (depth + 1) before = .ok value after) :
    ∃ bound, Spans bound before [] before.current.span (.expr value) after := by
  -- Behind the first token fewer are left, as the reader of the smaller depth needs it.
  have hadvance (hkind : before.current.kind ≠ .endOfInput) :
      Laid depth before [] before.advance := by
    obtain ⟨read, hread⟩ := before.passes_advance
    refine hstands.laid_behind hread ?_
    rintro rfl
    cases hread.kinds_eq (Cursor.reads_advance hstands.ends hkind)
  rw [expression, get_bind, get_bind] at h
  cases hkind : before.current.kind with
  | integer found =>
    rw [hkind] at h
    exact ⟨_, leads_number hstands.laid h⟩
  | long found =>
    rw [hkind] at h
    exact ⟨_, leads_number hstands.laid h⟩
  | double found =>
    rw [hkind] at h
    exact ⟨_, leads_number hstands.laid h⟩
  | string found =>
    rw [hkind] at h
    exact ⟨_, leads_literal hstands.laid h⟩
  | identifier name =>
    rw [hkind] at h
    obtain ⟨parameter, middle, hlabel, h⟩ := bind_eq_ok.mp h
    cases parameter with
    | some parameter =>
      obtain ⟨read, hread⟩ := moves_label.passes hlabel
      have hne : read ≠ [] := by
        rintro rfl
        cases hread.kinds_eq (reads_label hstands.ends hlabel)
      exact ⟨_, leads_functionBehind hexpr (hstands.laid_behind hread hne) h⟩
    | none =>
      rw [label_none hlabel] at h
      exact ⟨_, spans_pathOrCall hexpr hstands h⟩
  | keyword word =>
    rw [hkind] at h
    cases word with
    | new => exact ⟨_, leads_newValue hexpr (hadvance (by rw [hkind]; simp)) h⟩
    | _ => exact ⟨_, leads_literal hstands.laid h⟩
  | punctuation mark =>
    rw [hkind] at h
    cases mark with
    | minus => exact ⟨_, leads_number (hadvance (by rw [hkind]; simp)) h⟩
    | _ => cases h
  | endOfInput =>
    rw [hkind] at h
    cases h
  | invalid error =>
    rw [hkind] at h
    cases h

theorem seats_expression (depth : Nat) : Seats depth (expression depth) .expr := by
  induction depth with
  | zero => exact fun _ _ _ hstands => absurd hstands.lt (Nat.not_lt_zero _)
  | succ depth ih =>
    intro before value after hstands hvalue
    obtain ⟨bound, hspans⟩ := spans_expression ih hstands hvalue
    obtain ⟨kinds, hkinds, hform⟩ := sound_expression (depth + 1) hstands.ends hvalue
    obtain ⟨read, hread, hsits⟩ := hspans.sits hstands.spaced hkinds hform
    exact ⟨read, hread, hsits (by simp)⟩

theorem laid_program {statements : List Call} (hends : before.Ends) (hspaced : Spaced before.rest)
    (h : program before = .ok statements after) :
    ∃ read, before.Passes read after ∧ Parts Sits read (statements.map .call) := by
  have hlt := Nat.lt_succ_self before.rest.length
  rw [program_eq_of_lt hends hlt hlt] at h
  have hstands : Stands (before.rest.length + 1) before := ⟨hends, hlt, hspaced⟩
  exact (adds_untilEnd (adds_statement (seats_expression _)) [] hstands.laid h).parts

end Parser

/-- Among the tokens of a source stand those of its statements. -/
theorem parts_of_parse {source : String} {statements : List Call}
    (h : parse source = .ok statements) :
    Parts Sits (Tokenized.ofSource source).tokens (statements.map .call) := by
  obtain ⟨after, hprogram⟩ := parse_eq_ok_iff.mp h
  obtain ⟨read, hread, hparts⟩ := Parser.laid_program (at_ofSource source).ends
    (Lexer.spaced_tokensFrom 0 source.toList) hprogram
  have hall : Parts Sits (read ++ after.rest) (statements.map .call ++ []) := hparts.append .nil
  rwa [List.append_nil, ← hread.rest_eq] at hall

/-- A node of a statement takes tokens of the source, and stands within the statement. -/
theorem exists_sits_of_within {source : String} {statements : List Call} {statement : Call}
    {node : Node} (h : parse source = .ok statements) (hmem : statement ∈ statements)
    (hnode : Within (.call statement) node) :
    ∃ run, run <:+: (Tokenized.ofSource source).tokens ∧ Sits run node ∧
      statement.span.start ≤ node.span.start ∧ node.span.stop ≤ statement.span.stop := by
  obtain ⟨taken, htaken, hstatement⟩ :=
    (parts_of_parse h).exists_of_mem _ (List.mem_map_of_mem hmem)
  obtain ⟨run, hrun, hsits⟩ := hstatement.within hnode
  have hspaced : Spaced taken :=
    (Lexer.spaced_tokensFrom 0 source.toList).of_sublist htaken.sublist
  have hspan : statement.span = hull taken := hstatement.span_eq
  rw [hspan]
  exact ⟨run, hrun.trans htaken, hsits, hspaced.inside hrun.subset hsits⟩

end MigrationScript
