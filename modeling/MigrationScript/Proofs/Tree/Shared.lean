import MigrationScript.Proofs.Tree.Local
import MigrationScript.Proofs.Tree.Moves

/-!
# Readers that see the same tokens

Two readers with the same tokens in front, and different ones behind these, do the same while they
look at what they share. So a reader that fails early fails alike in every source that starts in the
same way.
-/

namespace MigrationScript

theorem Cursor.ends_followed {cursor : Cursor} {more : List Token} {finish : Token}
    (h : finish.kind = .endOfInput) : (cursor.followed more finish).Ends :=
  h

namespace Parser

variable {α β : Type} {parser : Parser α} {further : α → Parser β} {bound total least : Nat}

/-- Two readers that share tokens in front of the two rests have done the same and stand at the same
place between the shared tokens, or both have read all of these. -/
def Alike (finish : Token) (rest rest' : List Token)
    (first second : EStateM.Result ParseError Cursor α) : Prop :=
  (∃ value after, first = .ok value (Cursor.followed rest finish after) ∧
    second = .ok value (Cursor.followed rest' finish after)) ∨
  (∃ error after, first = .error error (Cursor.followed rest finish after) ∧
    second = .error error (Cursor.followed rest' finish after)) ∨
  (place first).rest.length ≤ rest.length ∧ (place second).rest.length ≤ rest'.length

/-- The parser goes forward, and while fewer tokens than the bound are left, it does the same in
front of the same tokens, whatever stands behind these, unless it reads all of them. -/
structure Tracks (bound : Nat) (parser : Parser α) : Prop where
  moves : Moves parser
  alike : ∀ ⦃shared : Cursor⦄ ⦃finish : Token⦄ ⦃rest rest' : List Token⦄,
    finish.kind = .endOfInput → (shared.followed rest finish).rest.length < bound →
      (shared.followed rest' finish).rest.length < bound →
        Alike finish rest rest' (parser (shared.followed rest finish))
          (parser (shared.followed rest' finish))

/-! ### Steps -/

theorem Moves.takes (h : Moves parser) : Takes 0 parser := by
  intro before value after hends hvalue
  obtain ⟨read, hread⟩ := h before
  rw [hvalue] at hread
  have hlength := hread.length_rest
  exact ⟨hread.ends hends, by rw [place] at hlength; omega⟩

/-- Where no token is shared there is nothing to show. -/
theorem tracks_of_shared (hmoves : Moves parser)
    (h : ∀ ⦃shared : Cursor⦄ ⦃finish : Token⦄ ⦃rest rest' : List Token⦄,
      1 ≤ shared.rest.length → finish.kind = .endOfInput →
      (shared.followed rest finish).rest.length < bound →
      (shared.followed rest' finish).rest.length < bound →
        Alike finish rest rest' (parser (shared.followed rest finish))
          (parser (shared.followed rest' finish))) : Tracks bound parser := by
  refine ⟨hmoves, fun shared finish rest rest' hfinish hlt hlt' => ?_⟩
  cases hshared : shared.rest with
  | nil =>
    have hfirst := hmoves.length_le (shared.followed rest finish)
    have hsecond := hmoves.length_le (shared.followed rest' finish)
    have hlength (more : List Token) :
        (shared.followed more finish).rest.length = more.length := by
      rw [Cursor.followed, hshared, List.nil_append]
    rw [hlength] at hfirst hsecond
    exact .inr (.inr ⟨hfirst, hsecond⟩)
  | cons token others =>
    exact h (by rw [hshared]; exact Nat.le_add_left 1 _) hfinish hlt hlt'

theorem Tracks.mono (h : Tracks bound parser) (hle : total ≤ bound) : Tracks total parser :=
  ⟨h.moves, fun _ _ _ _ hfinish hlt hlt' =>
    h.alike hfinish (Nat.lt_of_lt_of_le hlt hle) (Nat.lt_of_lt_of_le hlt' hle)⟩

theorem tracks_pure (value : α) : Tracks bound (pure value) :=
  ⟨moves_pure value, fun shared _ _ _ _ _ _ => .inl ⟨value, shared, rfl, rfl⟩⟩

theorem tracks_throw (error : ParseError) : Tracks bound (throw error : Parser α) :=
  ⟨moves_throw error, fun shared _ _ _ _ _ _ => .inr (.inl ⟨error, shared, rfl, rfl⟩)⟩

/-- The first step takes at least so many tokens, so that the bound of the second may be smaller. -/
theorem Tracks.bind_of_takes (h : Tracks (bound + least) parser)
    (htakes : ∀ ⦃before value after⦄, before.Ends → 1 ≤ before.rest.length →
      parser before = .ok value after → after.rest.length + least ≤ before.rest.length)
    (hfurther : ∀ value, Tracks bound (further value)) :
    Tracks (bound + least) (parser >>= further) := by
  have hmoves (value : α) : Moves (further value) := (hfurther value).moves
  refine tracks_of_shared (h.moves.bind hmoves) ?_
  intro shared finish rest rest' hshared hfinish hlt hlt'
  have hends (more : List Token) : (shared.followed more finish).Ends :=
    Cursor.ends_followed hfinish
  have hsome (more : List Token) : 1 ≤ (shared.followed more finish).rest.length := by
    rw [Cursor.followed, List.length_append]
    omega
  rcases h.alike hfinish hlt hlt' with ⟨value, after, hfirst, hsecond⟩ |
    ⟨error, after, hfirst, hsecond⟩ | ⟨hfirst, hsecond⟩
  · have hlength := htakes (hends rest) (hsome rest) hfirst
    have hlength' := htakes (hends rest') (hsome rest') hsecond
    rw [bind_of_ok hfirst, bind_of_ok hsecond]
    exact (hfurther value).alike hfinish (by omega) (by omega)
  · exact .inr (.inl ⟨error, after, bind_of_error hfirst, bind_of_error hsecond⟩)
  · exact .inr (.inr ⟨Nat.le_trans (place_bind_le hmoves) hfirst,
      Nat.le_trans (place_bind_le hmoves) hsecond⟩)

theorem Tracks.bind (h : Tracks bound parser) (hfurther : ∀ value, Tracks bound (further value)) :
    Tracks bound (parser >>= further) := by
  have htakes := h.moves.takes
  rw [← Nat.add_zero bound] at h ⊢
  exact h.bind_of_takes (fun _ _ _ hends _ hvalue => (htakes hends hvalue).2) hfurther

theorem Tracks.map {view : α → β} (h : Tracks bound parser) :
    Tracks bound (parser >>= fun value => pure (view value)) :=
  h.bind fun value => tracks_pure (view value)

/-- What a parser does that looks at no more than the current token. -/
theorem tracks_get_bind {further : Cursor → Parser β}
    (h : ∀ cursor, Tracks bound (further cursor))
    (hsame : ∀ {shared : Cursor} {more : List Token} {finish : Token}, 1 ≤ shared.rest.length →
      further (shared.followed more finish) = further shared) :
    Tracks bound (get >>= further) := by
  refine tracks_of_shared (moves_get_bind fun cursor => (h cursor).moves) ?_
  intro shared finish rest rest' hshared hfinish hlt hlt'
  rw [get_bind, get_bind, hsame hshared, hsame hshared]
  exact (h shared).alike hfinish hlt hlt'

/-- The bound on the number of steps may be any that is not below the number of tokens. -/
theorem tracks_fuel_bind {further : Nat → Parser β}
    (hagrees : ∀ count, count ≤ bound → Agrees count (further count) (further bound))
    (h : ∀ count, Tracks bound (further count)) : Tracks bound (fuel >>= further) := by
  refine ⟨moves_get_bind fun cursor => (h _).moves, fun shared finish rest rest' hfinish => ?_⟩
  intro hlt hlt'
  have hends (more : List Token) : (shared.followed more finish).Ends :=
    Cursor.ends_followed hfinish
  rw [bind_of_ok (fuel_eq _), bind_of_ok (fuel_eq _),
    hagrees _ hlt (hends rest) (Nat.lt_succ_self _),
    hagrees _ hlt' (hends rest') (Nat.lt_succ_self _)]
  exact (h bound).alike hfinish hlt hlt'

theorem tracks_ite {condition : Prop} [Decidable condition] {other : Parser α}
    (h : Tracks bound parser) (hother : Tracks bound other) :
    Tracks bound (if condition then parser else other) := by
  split
  · exact h
  · exact hother

theorem tracks_expected {expectation : Expectation} :
    Tracks bound (expected expectation : Parser α) :=
  tracks_get_bind (fun _ => tracks_throw _) fun hshared => by rw [Cursor.current_followed hshared]

theorem tracks_advance : Tracks bound advance := by
  refine tracks_of_shared moves_advance ?_
  intro shared finish rest rest' hshared _ _ _
  rw [advance_eq, advance_eq, Cursor.advance_followed hshared, Cursor.advance_followed hshared]
  exact .inl ⟨(), shared.advance, rfl, rfl⟩

theorem tracks_advance_bind {further : Unit → Parser β}
    (h : ∀ value, Tracks bound (further value)) : Tracks (bound + 1) (advance >>= further) := by
  refine tracks_advance.bind_of_takes (fun before value after _ hsome hvalue => ?_) h
  rw [advance_eq] at hvalue
  cases hvalue
  rw [Cursor.rest_advance, List.length_tail]
  omega

theorem tracks_expect {mark : Punctuation} : Tracks bound (expect mark) :=
  tracks_get_bind (fun _ => tracks_ite tracks_advance tracks_expected)
    fun hshared => by rw [Cursor.isAt_followed hshared]

theorem tracks_skip {mark : Punctuation} : Tracks bound (skip mark) :=
  tracks_get_bind (fun _ => tracks_ite tracks_advance.map (tracks_pure _))
    fun hshared => by rw [Cursor.isAt_followed hshared]

theorem tracks_identifier : Tracks bound identifier := by
  refine tracks_get_bind (fun cursor => ?_) fun hshared => by rw [Cursor.current_followed hshared]
  split
  · exact tracks_advance.map
  · exact tracks_expected

theorem tracks_spanFrom {start : Span} : Tracks bound (spanFrom start) :=
  ⟨moves_get_bind fun _ => moves_pure _,
    fun shared _ _ _ _ _ _ => .inl ⟨shared.spanFrom start, shared, rfl, rfl⟩⟩

theorem tracks_number {negative : Bool} : Tracks bound (number negative) := by
  have hbehind (value : Constant) : Tracks bound (do advance; return value) := tracks_advance.map
  refine tracks_get_bind (fun cursor => ?_) fun hshared => by rw [Cursor.current_followed hshared]
  split
  · exact hbehind _
  · exact hbehind _
  · exact hbehind _
  · exact tracks_expected.bind hbehind

/-! ### Labels

A label is told by two tokens. If only its name is shared, then one reader may find the label and
the other one not; but both have read the name when they are through with what follows it. -/

/-- Where a name comes next the parser reads it, also if it then fails. -/
def Bites (bound : Nat) (parser : Parser α) : Prop :=
  ∀ ⦃cursor : Cursor⦄ ⦃name : String⦄, cursor.Ends → cursor.rest.length < bound →
    cursor.current.kind = .identifier name →
      (place (parser cursor)).rest.length + 1 ≤ cursor.rest.length

theorem Bites.bind (h : Bites bound parser) (hmoves : ∀ value, Moves (further value)) :
    Bites bound (parser >>= further) := by
  intro cursor name hends hlt hkind
  have hle : (place ((parser >>= further) cursor)).rest.length ≤
      (place (parser cursor)).rest.length := place_bind_le hmoves
  have hname := h hends hlt hkind
  omega

theorem bites_identifier : Bites bound identifier := by
  intro cursor name hends hlt hkind
  rw [identifier_of_kind hkind]
  exact Cursor.length_advance_lt hends (by rw [hkind]; simp)

theorem bites_label_bind {mark : Punctuation} {further : Option String → Parser β}
    (hmoves : ∀ name, Moves (further name)) (h : Bites bound (further none)) :
    Bites bound (label mark >>= further) := by
  intro cursor name hends hlt hkind
  by_cases hlabel : ∃ found, Labelled mark found cursor
  · obtain ⟨found, hlabel⟩ := hlabel
    have hahead := Cursor.length_advance_advance_lt hends (by rw [hlabel.2]; simp)
    have hle := (hmoves (some found)).length_le cursor.advance.advance
    rw [bind_of_ok (label_of_labelled hlabel)]
    omega
  · rw [bind_of_ok (label_of_not_labelled (not_exists.mp hlabel))]
    exact h hends hlt hkind

theorem moves_label {mark : Punctuation} : Moves (label mark) := by
  refine moves_get_bind fun cursor => moves_get_bind fun cursor' => ?_
  split
  · exact moves_advance.bind fun _ => moves_advance.bind fun _ => moves_pure _
  · exact moves_pure _

section Label

variable {mark : Punctuation} {further : Option String → Parser β} {shared : Cursor}

theorem label_bind_followed_of_labelled {name : String} (hlabel : Labelled mark name shared)
    (hahead : 2 ≤ shared.rest.length) (more : List Token) (finish : Token) :
    (label mark >>= further) (shared.followed more finish) =
      further (some name) (shared.advance.advance.followed more finish) := by
  have hbehind : 1 ≤ shared.advance.rest.length := by
    rw [Cursor.rest_advance, List.length_tail]
    omega
  rw [bind_of_ok (label_of_labelled ((labelled_followed hahead).mpr hlabel)),
    Cursor.advance_followed (Nat.le_of_succ_le hahead), Cursor.advance_followed hbehind]

/-- Where the shared tokens tell that there is no label, none is found. -/
theorem label_bind_followed_of_not_labelled
    (hshared : 1 ≤ shared.rest.length) (hnot : ∀ name, ¬Labelled mark name shared)
    (htold : 2 ≤ shared.rest.length ∨ ∀ name, shared.current.kind ≠ .identifier name)
    (more : List Token) (finish : Token) :
    (label mark >>= further) (shared.followed more finish) =
      further none (shared.followed more finish) := by
  refine bind_of_ok (label_of_not_labelled fun name hlabel => ?_)
  obtain hahead | hkind := htold
  · exact hnot name ((labelled_followed hahead).mp hlabel)
  · refine hkind name ?_
    rw [← hlabel.1, Cursor.current_followed hshared]

/-- A name that is the last of the shared tokens is read in any case. -/
theorem length_place_label_bind_followed {name : String} {more : List Token} {finish : Token}
    (hmoves : ∀ name, Moves (further name)) (hbites : Bites total (further none))
    (hlast : shared.rest.length = 1) (hkind : shared.current.kind = .identifier name)
    (hfinish : finish.kind = .endOfInput)
    (hlt : (shared.followed more finish).rest.length < total) :
    (place ((label mark >>= further) (shared.followed more finish))).rest.length ≤ more.length := by
  have hlabel : Bites total (label mark >>= further) := bites_label_bind hmoves hbites
  have hname : (shared.followed more finish).current.kind = .identifier name := by
    rw [Cursor.current_followed (Nat.le_of_eq hlast.symm), hkind]
  have hbite := hlabel (Cursor.ends_followed hfinish) hlt hname
  have hlength : (shared.followed more finish).rest.length = shared.rest.length + more.length :=
    List.length_append
  omega

theorem tracks_label_bind
    (hsome : ∀ name, Tracks bound (further (some name))) (hnone : Tracks total (further none))
    (hbites : Bites total (further none)) (hle : total ≤ bound + 2) :
    Tracks total (label mark >>= further) := by
  have hmoves (name : Option String) : Moves (further name) := by
    cases name with
    | none => exact hnone.moves
    | some name => exact (hsome name).moves
  refine tracks_of_shared (moves_label.bind hmoves) ?_
  intro shared finish rest rest' hshared hfinish hlt hlt'
  by_cases hlabel : ∃ name, 2 ≤ shared.rest.length ∧ Labelled mark name shared
  · obtain ⟨name, hahead, hlabel⟩ := hlabel
    have hlength (more : List Token) :
        (shared.advance.advance.followed more finish).rest.length + 2 =
          (shared.followed more finish).rest.length := by
      rw [Cursor.followed, Cursor.followed, List.length_append, List.length_append,
        Cursor.rest_advance, Cursor.rest_advance, List.length_tail, List.length_tail]
      omega
    have hrest := hlength rest
    have hrest' := hlength rest'
    rw [label_bind_followed_of_labelled hlabel hahead, label_bind_followed_of_labelled hlabel hahead]
    exact (hsome name).alike hfinish (by omega) (by omega)
  by_cases htold : 2 ≤ shared.rest.length ∨ ∀ name, shared.current.kind ≠ .identifier name
  · have hnot (name : String) : ¬Labelled mark name shared := by
      intro h
      obtain hahead | hkind := htold
      · exact hlabel ⟨name, hahead, h⟩
      · exact hkind name h.1
    rw [label_bind_followed_of_not_labelled hshared hnot htold,
      label_bind_followed_of_not_labelled hshared hnot htold]
    exact hnone.alike hfinish hlt hlt'
  · -- The name is the last token that is shared, and both readers read it.
    obtain ⟨hahead, hkind⟩ := not_or.mp htold
    obtain ⟨name, hname⟩ := Classical.not_forall_not.mp hkind
    have hlast : shared.rest.length = 1 := by omega
    exact .inr (.inr ⟨length_place_label_bind_followed hmoves hbites hlast hname hfinish hlt,
      length_place_label_bind_followed hmoves hbites hlast hname hfinish hlt'⟩)

end Label

/-! ### Lists -/

section Lists

variable {item : Parser α} (hitem : Tracks bound item) {count : Nat}

include hitem

theorem tracks_separated : Tracks bound (separated item count) := by
  induction count with
  | zero => exact tracks_pure _
  | succ count ih =>
    exact hitem.bind fun first => tracks_skip.bind fun found => tracks_ite ih.map (tracks_pure _)

theorem tracks_listed : Tracks bound (listed item count) := by
  induction count with
  | zero => exact tracks_pure _
  | succ count ih =>
    refine tracks_get_bind (fun cursor => tracks_ite (tracks_pure _) ?_)
      fun hshared => by rw [Cursor.isAt_followed hshared]
    exact hitem.bind fun first => tracks_skip.bind fun found => tracks_ite ih.map (tracks_pure _)

theorem tracks_blockOf : Tracks bound (blockOf item count) := by
  induction count with
  | zero => exact tracks_pure _
  | succ count ih =>
    have hend : Tracks bound (expected (.mark .rightBrace) : Parser Unit) := tracks_expected
    have hitems : Tracks bound (do let first ← item; return first :: (← blockOf item count)) :=
      hitem.bind fun first => ih.map
    refine tracks_get_bind (fun cursor => tracks_ite (tracks_pure _) ?_)
      fun hshared => by rw [Cursor.isAt_followed hshared]
    exact tracks_get_bind (fun cursor => tracks_ite (hend.bind fun _ => hitems) hitems)
      fun hshared => by rw [Cursor.isEmpty_rest_followed hshared]

theorem tracks_untilEnd : Tracks bound (untilEnd item count) := by
  induction count with
  | zero => exact tracks_pure _
  | succ count ih =>
    exact tracks_get_bind
      (fun cursor => tracks_ite (tracks_pure _) (hitem.bind fun first => ih.map))
      fun hshared => by rw [Cursor.isEmpty_rest_followed hshared]

end Lists

theorem tracks_pathTail {count : Nat} : Tracks bound (pathTail count) := by
  induction count with
  | zero => exact tracks_pure _
  | succ count ih =>
    refine tracks_skip.bind fun found => tracks_ite ?_ (tracks_pure _)
    exact tracks_identifier.bind fun segment => ih.map

theorem agrees_pathTail {count count' : Nat} (hle : count ≤ count') :
    Agrees count (pathTail count) (pathTail count') := by
  induction count generalizing count' with
  | zero => exact fun _ _ hlt => absurd hlt (Nat.not_lt_zero _)
  | succ count ih =>
    obtain ⟨count', rfl⟩ := Nat.exists_eq_succ_of_ne_zero (Nat.ne_of_gt (Nat.zero_lt_of_lt hle))
    have ih := ih (Nat.le_of_succ_le_succ hle)
    rw [pathTail, pathTail]
    refine takes_skip.agrees_bind fun found => agrees_ite ?_ (.refl _)
    exact takes_identifier.agrees_bind fun segment => ih.bind_same

theorem tracks_pathBehind (first : String) :
    Tracks bound (do return first :: (← pathTail (← fuel))) :=
  tracks_fuel_bind (fun _ hle => (agrees_pathTail hle).bind_same) fun _ => tracks_pathTail.map

theorem tracks_path : Tracks bound path :=
  tracks_identifier.bind tracks_pathBehind

/-- A path takes a token, so that the bound of what follows may be smaller. -/
theorem tracks_path_bind {further : List String → Parser β}
    (h : ∀ segments, Tracks bound (further segments)) :
    Tracks (bound + 1) (path >>= further) ∧ Bites (bound + 1) (path >>= further) := by
  have hbehind (first : String) : Tracks bound (do return first :: (← pathTail (← fuel))) :=
    tracks_pathBehind first
  have hpath : Bites (bound + 1) path := bites_identifier.bind fun first => (hbehind first).moves
  exact ⟨tracks_path.bind_of_takes (fun _ _ _ hends _ hvalue => (takes_path hends hvalue).2) h,
    hpath.bind fun segments => (h segments).moves⟩

/-! ### Productions -/

theorem tracks_close {mark : Punctuation} {start : Span} {make : Span → α} :
    Tracks bound (do expect mark; return make (← spanFrom start)) :=
  tracks_expect.bind fun _ => tracks_spanFrom.map

section Nested

variable {expr : Parser Expr} (hexpr : Tracks bound expr) (hbites : Bites bound expr)
  (hsound : Sound expr (ExprForm.under Expr.eraseSpans)) {start : Span}

include hexpr hbites

theorem tracks_argument : Tracks bound (argument expr) := by
  refine tracks_get_bind (fun cursor => ?_) fun hshared => by rw [Cursor.current_followed hshared]
  exact tracks_label_bind (fun name => hexpr.map) hexpr.map (hbites.bind fun _ => moves_pure _)
    (by omega)

omit hbites in
theorem tracks_member : Tracks bound (member expr) := by
  have hbehind (start : Span) (segments : List String) :
      Tracks bound (do return Member.path segments (← spanFrom start)) := tracks_spanFrom.map
  have hpath (start : Span) := tracks_path_bind (hbehind start)
  refine tracks_get_bind (fun cursor => ?_) fun hshared => by rw [Cursor.current_followed hshared]
  exact tracks_label_bind (fun name => hexpr.map) ((hpath _).1.mono (Nat.le_succ bound))
    (fun _ _ hends hlt => (hpath _).2 hends (Nat.lt_succ_of_lt hlt)) (by omega)

include hsound

theorem tracks_callBehind {target method : String} :
    Tracks bound (callBehind expr target method start) := by
  have htakes : Takes 1 (argument expr) := (sound_argument hsound).takes ArgumentForm.ne_nil
  refine tracks_expect.bind fun _ => tracks_get_bind (fun cursor => tracks_ite tracks_close ?_)
    fun hshared => by rw [Cursor.isAt_followed hshared]
  refine tracks_fuel_bind
    (fun count hle => (agrees_separated (.refl _) htakes hle).bind_same) fun count => ?_
  exact (tracks_separated (tracks_argument hexpr hbites)).bind fun arguments => tracks_close

theorem tracks_call : Tracks bound (call expr) := by
  refine tracks_get_bind (fun cursor => ?_) fun hshared => by rw [Cursor.current_followed hshared]
  exact tracks_identifier.bind fun target => tracks_expect.bind fun _ =>
    tracks_identifier.bind fun method => tracks_callBehind hexpr hbites hsound

theorem tracks_statement : Tracks bound (statement expr) :=
  (tracks_call hexpr hbites hsound).bind fun _ => tracks_expect.map

omit hbites in
theorem tracks_newValue : Tracks bound (newValue expr start) := by
  have htakes : Takes 1 expr := hsound.takes ExprForm.ne_nil
  have htakes' : Takes 1 (member expr) := (sound_member hsound).takes MemberForm.ne_nil
  refine tracks_skip.bind fun found => tracks_ite ?_ ?_
  · refine tracks_expect.bind fun _ => tracks_expect.bind fun _ => tracks_fuel_bind
      (fun count hle => (agrees_listed (.refl _) htakes hle).bind_same) fun count => ?_
    exact (tracks_listed hexpr).bind fun items => tracks_close
  · refine tracks_skip.bind fun found => tracks_ite ?_ tracks_expected
    refine tracks_fuel_bind
      (fun count hle => (agrees_listed (.refl _) htakes' hle).bind_same) fun count => ?_
    exact (tracks_listed (tracks_member hexpr)).bind fun members => tracks_close

theorem tracks_functionBehind {parameter : String} :
    Tracks bound (functionBehind expr parameter start) := by
  have htakes : Takes 1 (statement expr) := (sound_statement hsound).takes StatementForm.ne_nil
  refine tracks_skip.bind fun found => tracks_ite ?_ (hexpr.bind fun body => tracks_spanFrom.map)
  refine tracks_fuel_bind
    (fun count hle => (agrees_blockOf (.refl _) htakes hle).bind_same) fun count => ?_
  exact (tracks_blockOf (tracks_statement hexpr hbites hsound)).bind fun statements => tracks_close

theorem tracks_pathOrCall :
    Tracks (bound + 1) (pathOrCall expr start) ∧ Bites (bound + 1) (pathOrCall expr start) := by
  have hcallForm : Tracks bound (do throw ⟨.callForm, ← spanFrom start⟩ : Parser Expr) :=
    tracks_spanFrom.bind fun _ => tracks_throw _
  refine tracks_path_bind fun segments => ?_
  refine tracks_get_bind (fun cursor => tracks_ite ?_ tracks_spanFrom.map)
    fun hshared => by rw [Cursor.isAt_followed hshared]
  split
  · exact (tracks_callBehind hexpr hbites hsound).map
  · exact hcallForm

end Nested

theorem tracks_literal {value : Constant} {start : Span} : Tracks bound (literal value start) :=
  tracks_advance.bind fun _ => tracks_spanFrom.map

theorem tracks_expression {depth : Nat} :
    Tracks depth (expression depth) ∧ Bites depth (expression depth) := by
  induction depth with
  | zero => exact ⟨tracks_expected, fun _ _ _ hlt => absurd hlt (Nat.not_lt_zero _)⟩
  | succ depth ih =>
    obtain ⟨hexpr, hbites⟩ := ih
    have hsound := sound_expression depth
    have hnumber {bound : Nat} {negative : Bool} {start : Span} : Tracks bound
        (do return Expr.constant (← number negative) (← spanFrom start)) :=
      tracks_number.bind fun _ => tracks_spanFrom.map
    have hname (start : Span) : Tracks (depth + 1) (pathOrCall (expression depth) start) ∧
        Bites (depth + 1) (pathOrCall (expression depth) start) :=
      tracks_pathOrCall hexpr hbites hsound
    have hfunction (parameter : String) (start : Span) :
        Tracks depth (functionBehind (expression depth) parameter start) :=
      tracks_functionBehind hexpr hbites hsound
    constructor
    · refine tracks_get_bind (fun before => tracks_get_bind (fun cursor => ?_) ?_) ?_
      · cases cursor.current.kind with
        | integer value => exact hnumber
        | long value => exact hnumber
        | double value => exact hnumber
        | string value => exact tracks_literal
        | identifier name =>
          exact tracks_label_bind (fun parameter => hfunction parameter _) (hname _).1 (hname _).2
            (by omega)
        | keyword word =>
          cases word with
          | true => exact tracks_literal
          | false => exact tracks_literal
          | null => exact tracks_literal
          | new => exact tracks_advance_bind fun _ => tracks_newValue hexpr hsound
        | punctuation mark =>
          cases mark with
          | minus => exact tracks_advance_bind fun _ => hnumber
          | _ => exact tracks_expected
        | endOfInput => exact tracks_expected
        | invalid error => exact tracks_expected
      · exact fun hshared => by rw [Cursor.current_followed hshared]
      · exact fun hshared => by rw [Cursor.current_followed hshared]
    · intro cursor name hends hlt hkind
      rw [expression, get_bind, get_bind, hkind]
      refine bites_label_bind (fun parameter => ?_) (hname _).2 hends hlt hkind
      cases parameter with
      | some parameter => exact (hfunction parameter _).moves
      | none => exact (hname _).1.moves

/-! ### Statements -/

theorem tracks_expression_statement {depth : Nat} : Tracks depth (statement (expression depth)) :=
  tracks_statement tracks_expression.1 tracks_expression.2 (sound_expression depth)

theorem moves_nextStatement : Moves nextStatement :=
  moves_get_bind fun _ => tracks_expression_statement.moves

theorem moves_program : Moves program := by
  have hitem : Tracks 0 nextStatement :=
    ⟨moves_nextStatement, fun _ _ _ _ _ hlt => absurd hlt (Nat.not_lt_zero _)⟩
  exact moves_get_bind fun cursor => (tracks_untilEnd hitem).moves

theorem alike_program {shared : Cursor} {finish : Token} (rest rest' : List Token)
    (hfinish : finish.kind = .endOfInput) :
    Alike finish rest rest' (program (shared.followed rest finish))
      (program (shared.followed rest' finish)) := by
  -- A bound above the number of all tokens lets one reader read both scripts.
  obtain ⟨bound, hlt, hlt'⟩ : ∃ bound, (shared.followed rest finish).rest.length < bound ∧
      (shared.followed rest' finish).rest.length < bound :=
    ⟨(shared.followed rest finish).rest.length + (shared.followed rest' finish).rest.length + 1,
      by omega, by omega⟩
  rw [program_eq_of_lt (Cursor.ends_followed hfinish) hlt hlt,
    program_eq_of_lt (Cursor.ends_followed hfinish) hlt' hlt']
  exact (tracks_untilEnd tracks_expression_statement).alike hfinish hlt hlt'

end Parser

end MigrationScript
