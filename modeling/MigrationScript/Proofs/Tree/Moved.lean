import MigrationScript.Proofs.Tree.Reading
import MigrationScript.Proofs.Tree.Spans

/-!
# Reading moved tokens

Only the kinds of tokens steer a reader; their places go into the spans of what it gives. So a
change of spans can be made before or after reading, as long as it goes through `Span.merge`.
-/

namespace MigrationScript

variable {change : Span → Span}

/-! ### Moved tokens -/

def Token.mapSpan (change : Span → Span) (token : Token) : Token :=
  { token with span := change token.span }

/-- The error at another place. -/
def ParseError.mapSpan (change : Span → Span) (error : ParseError) : ParseError :=
  { error with span := change error.span }

theorem ParseError.unexpected_mapSpan (expectation : Expectation) (found : Token) :
    unexpected expectation (found.mapSpan change) =
      (unexpected expectation found).mapSpan change := by
  obtain ⟨kind, span⟩ := found
  cases kind <;> rfl

namespace Cursor

/-- The same place between tokens that have been moved. -/
def mapSpans (change : Span → Span) (cursor : Cursor) : Cursor :=
  ⟨cursor.rest.map (Token.mapSpan change), cursor.finish.mapSpan change, change cursor.previous⟩

theorem current_mapSpans (cursor : Cursor) :
    (cursor.mapSpans change).current = cursor.current.mapSpan change := by
  obtain ⟨rest, finish, previous⟩ := cursor
  cases rest <;> rfl

theorem ahead_mapSpans (cursor : Cursor) :
    (cursor.mapSpans change).ahead = cursor.ahead.mapSpan change := by
  obtain ⟨rest, finish, previous⟩ := cursor
  rcases rest with - | ⟨token, - | ⟨behind, rest⟩⟩ <;> rfl

@[simp]
theorem kind_current_mapSpans (cursor : Cursor) :
    (cursor.mapSpans change).current.kind = cursor.current.kind := by
  rw [current_mapSpans, Token.mapSpan]

@[simp]
theorem kind_ahead_mapSpans (cursor : Cursor) :
    (cursor.mapSpans change).ahead.kind = cursor.ahead.kind := by
  rw [ahead_mapSpans, Token.mapSpan]

@[simp]
theorem span_current_mapSpans (cursor : Cursor) :
    (cursor.mapSpans change).current.span = change cursor.current.span := by
  rw [current_mapSpans, Token.mapSpan]

@[simp]
theorem isAt_mapSpans (cursor : Cursor) (mark : Punctuation) :
    (cursor.mapSpans change).isAt mark = cursor.isAt mark := by
  rw [isAt, isAt, kind_current_mapSpans]

@[simp]
theorem isEmpty_rest_mapSpans (cursor : Cursor) :
    (cursor.mapSpans change).rest.isEmpty = cursor.rest.isEmpty :=
  List.isEmpty_map

theorem advance_mapSpans (cursor : Cursor) :
    (cursor.mapSpans change).advance = cursor.advance.mapSpans change := by
  obtain ⟨rest, finish, previous⟩ := cursor
  cases rest <;> rfl

end Cursor

namespace Parser

/-- The same outcome on moved tokens: the value through a view, an error at its new place. -/
def movedOutcome {α : Type} (change : Span → Span) (view : α → α) :
    EStateM.Result ParseError Cursor α → EStateM.Result ParseError Cursor α
  | .ok value after => .ok (view value) (after.mapSpans change)
  | .error error after => .error (error.mapSpan change) (after.mapSpans change)

variable {α β : Type} {view : α → α} {view' : β → β} {parser parser' : Parser α}
  {further further' : α → Parser β}

/-- On moved tokens the second parser does what the first one does on the tokens. -/
def Follows (change : Span → Span) (view : α → α) (parser parser' : Parser α) : Prop :=
  ∀ cursor, parser' (cursor.mapSpans change) = movedOutcome change view (parser cursor)

/-! ### Steps -/

theorem follows_pure {value value' : α} (h : view value = value') :
    Follows change view (pure value) (pure value') := by
  subst h
  exact fun _ => rfl

theorem Follows.bind (h : Follows change view parser parser')
    (hfurther : ∀ value, Follows change view' (further value) (further' (view value))) :
    Follows change view' (parser >>= further) (parser' >>= further') := by
  intro cursor
  have hmoved := h cursor
  cases hvalue : parser cursor with
  | ok value after =>
    rw [hvalue] at hmoved
    rw [bind_of_ok hvalue, bind_of_ok hmoved]
    exact hfurther value after
  | error error after =>
    rw [hvalue] at hmoved
    rw [bind_of_error hvalue, bind_of_error hmoved]
    rfl

theorem follows_get_bind {further further' : Cursor → Parser β}
    (h : ∀ cursor, Follows change view' (further cursor) (further' (cursor.mapSpans change))) :
    Follows change view' (get >>= further) (get >>= further') :=
  fun cursor => h cursor cursor

theorem follows_ite {condition : Prop} [Decidable condition] {other other' : Parser α}
    (h : Follows change view parser parser') (hother : Follows change view other other') :
    Follows change view (if condition then parser else other)
      (if condition then parser' else other') := by
  split
  · exact h
  · exact hother

theorem follows_throw {error error' : ParseError} (h : error.mapSpan change = error') :
    Follows change view (throw error) (throw error') := by
  subst h
  exact fun _ => rfl

/-! ### Single tokens -/

theorem follows_expected {expectation : Expectation} :
    Follows change view (expected expectation) (expected expectation) :=
  follows_get_bind fun cursor => follows_throw <| by
    rw [Cursor.current_mapSpans, ParseError.unexpected_mapSpan]

theorem follows_advance : Follows change id advance advance := by
  intro cursor
  rw [advance_eq, advance_eq, Cursor.advance_mapSpans]
  rfl

theorem follows_expect {mark : Punctuation} : Follows change id (expect mark) (expect mark) := by
  refine follows_get_bind fun cursor => ?_
  rw [Cursor.isAt_mapSpans]
  exact follows_ite follows_advance follows_expected

theorem follows_skip {mark : Punctuation} : Follows change id (skip mark) (skip mark) := by
  refine follows_get_bind fun cursor => ?_
  rw [Cursor.isAt_mapSpans]
  exact follows_ite (follows_advance.bind fun _ => follows_pure rfl) (follows_pure rfl)

theorem follows_identifier : Follows change id identifier identifier := by
  refine follows_get_bind fun cursor => ?_
  rw [Cursor.kind_current_mapSpans]
  cases cursor.current.kind with
  | identifier name => exact follows_advance.bind fun _ => follows_pure rfl
  | _ => exact follows_expected

theorem follows_fuel : Follows change id fuel fuel := by
  refine follows_get_bind fun cursor => follows_pure ?_
  exact congrArg (· + 1) (List.length_map _).symm

theorem follows_label {mark : Punctuation} : Follows change id (label mark) (label mark) := by
  refine follows_get_bind fun cursor => follows_get_bind fun cursor' => ?_
  rw [Cursor.kind_current_mapSpans, Cursor.kind_ahead_mapSpans]
  split
  · exact follows_advance.bind fun _ => follows_advance.bind fun _ => follows_pure rfl
  · exact follows_pure rfl

theorem follows_number {negative : Bool} :
    Follows change id (number negative) (number negative) := by
  have hbehind (value : Constant) : Follows change id
      (do advance; return value) (do advance; return value) :=
    follows_advance.bind fun _ => follows_pure rfl
  refine follows_get_bind fun cursor => ?_
  rw [Cursor.kind_current_mapSpans]
  cases cursor.current.kind with
  | integer value => exact hbehind _
  | long value => exact hbehind _
  | double value => exact hbehind _
  | _ => exact Follows.bind follows_expected hbehind

/-! ### Lists -/

section Lists

variable {item : Parser α} {count : Nat}

theorem follows_separated (hitem : Follows change view item item) :
    Follows change (List.map view) (separated item count) (separated item count) := by
  induction count with
  | zero => exact follows_pure rfl
  | succ count ih =>
    rw [separated]
    refine hitem.bind fun first => follows_skip.bind fun found => follows_ite ?_ (follows_pure rfl)
    exact ih.bind fun rest => follows_pure rfl

theorem follows_listed (hitem : Follows change view item item) :
    Follows change (List.map view) (listed item count) (listed item count) := by
  induction count with
  | zero => exact follows_pure rfl
  | succ count ih =>
    rw [listed]
    refine follows_get_bind fun cursor => ?_
    rw [Cursor.isAt_mapSpans]
    refine follows_ite (follows_pure rfl) ?_
    refine hitem.bind fun first => follows_skip.bind fun found => follows_ite ?_ (follows_pure rfl)
    exact ih.bind fun rest => follows_pure rfl

theorem follows_blockOf (hitem : Follows change view item item) :
    Follows change (List.map view) (blockOf item count) (blockOf item count) := by
  induction count with
  | zero => exact follows_pure rfl
  | succ count ih =>
    have hitems : Follows change (List.map view)
        (do let first ← item; return first :: (← blockOf item count))
        (do let first ← item; return first :: (← blockOf item count)) :=
      hitem.bind fun first => ih.bind fun rest => follows_pure rfl
    rw [blockOf]
    refine follows_get_bind fun cursor => ?_
    rw [Cursor.isAt_mapSpans]
    refine follows_ite (follows_pure rfl) (follows_get_bind fun cursor => ?_)
    rw [Cursor.isEmpty_rest_mapSpans]
    have hend : Follows change id (expected (.mark .rightBrace) : Parser Unit)
        (expected (.mark .rightBrace)) := follows_expected
    exact follows_ite (hend.bind fun _ => hitems) hitems

theorem follows_untilEnd (hitem : Follows change view item item) :
    Follows change (List.map view) (untilEnd item count) (untilEnd item count) := by
  induction count with
  | zero => exact follows_pure rfl
  | succ count ih =>
    rw [untilEnd]
    refine follows_get_bind fun cursor => ?_
    rw [Cursor.isEmpty_rest_mapSpans]
    refine follows_ite (follows_pure rfl) ?_
    exact hitem.bind fun first => ih.bind fun rest => follows_pure rfl

end Lists

theorem follows_pathTail {bound : Nat} :
    Follows change id (pathTail bound) (pathTail bound) := by
  induction bound with
  | zero => exact follows_pure rfl
  | succ bound ih =>
    rw [pathTail]
    refine follows_skip.bind fun found => follows_ite ?_ (follows_pure rfl)
    exact follows_identifier.bind fun segment => ih.bind fun segments => follows_pure rfl

theorem follows_path : Follows change id path path :=
  follows_identifier.bind fun _ => follows_fuel.bind fun _ =>
    follows_pathTail.bind fun _ => follows_pure rfl

/-! ### Productions -/

section Nested

variable {expr : Parser Expr} {start : Span}
  (hmerge : ∀ a b : Span, change (a.merge b) = (change a).merge (change b))

include hmerge

theorem follows_spanFrom : Follows change change (spanFrom start) (spanFrom (change start)) := by
  intro cursor
  rw [spanFrom_eq, spanFrom_eq]
  exact congrArg (EStateM.Result.ok · _) (hmerge start cursor.previous).symm

theorem follows_literal {value : Constant} :
    Follows change (Expr.mapSpans change) (literal value start) (literal value (change start)) :=
  follows_advance.bind fun _ => (follows_spanFrom hmerge).bind fun _ => follows_pure rfl

variable (hexpr : Follows change (Expr.mapSpans change) expr expr)

include hexpr

theorem follows_argument :
    Follows change (Argument.mapSpans change) (argument expr) (argument expr) := by
  refine follows_get_bind fun cursor => follows_label.bind fun name => hexpr.bind fun value => ?_
  refine follows_pure ?_
  rw [Argument.mapSpans, hmerge, Cursor.span_current_mapSpans, Expr.span_mapSpans]
  rfl

theorem follows_callBehind {target method : String} :
    Follows change (Call.mapSpans change) (callBehind expr target method start)
      (callBehind expr target method (change start)) := by
  have hbehind (arguments : List Argument) : Follows change (Call.mapSpans change)
      (do expect .rightParen; return ⟨target, method, arguments, ← spanFrom start⟩)
      (do
        expect .rightParen
        return ⟨target, method, arguments.map (Argument.mapSpans change),
          ← spanFrom (change start)⟩) := by
    refine follows_expect.bind fun _ => (follows_spanFrom hmerge).bind fun span => follows_pure ?_
    rw [Call.mapSpans, mapArguments_eq_map]
  refine follows_expect.bind fun _ => follows_get_bind fun cursor => ?_
  rw [Cursor.isAt_mapSpans]
  refine follows_ite (hbehind []) (follows_fuel.bind fun count => ?_)
  exact (follows_separated (follows_argument hmerge hexpr)).bind hbehind

theorem follows_call : Follows change (Call.mapSpans change) (call expr) (call expr) := by
  refine follows_get_bind fun cursor => ?_
  rw [Cursor.span_current_mapSpans]
  exact follows_identifier.bind fun target => follows_expect.bind fun _ =>
    follows_identifier.bind fun method => follows_callBehind hmerge hexpr

theorem follows_statement :
    Follows change (Call.mapSpans change) (statement expr) (statement expr) :=
  (follows_call hmerge hexpr).bind fun _ => follows_expect.bind fun _ => follows_pure rfl

theorem follows_member : Follows change (Member.mapSpans change) (member expr) (member expr) := by
  refine follows_get_bind fun cursor => follows_label.bind fun name => ?_
  rw [Cursor.span_current_mapSpans]
  cases name with
  | none =>
    exact follows_path.bind fun segments =>
      (follows_spanFrom hmerge).bind fun span => follows_pure rfl
  | some name =>
    refine hexpr.bind fun value => follows_pure ?_
    rw [Member.mapSpans, hmerge, Expr.span_mapSpans]

theorem follows_newValue : Follows change (Expr.mapSpans change) (newValue expr start)
    (newValue expr (change start)) := by
  refine follows_skip.bind fun found => follows_ite ?_ ?_
  · refine follows_expect.bind fun _ => follows_expect.bind fun _ => ?_
    refine follows_fuel.bind fun count => (follows_listed hexpr).bind fun items => ?_
    refine follows_expect.bind fun _ => (follows_spanFrom hmerge).bind fun span => follows_pure ?_
    rw [Expr.mapSpans, mapItems_eq_map]
  · refine follows_skip.bind fun found => follows_ite ?_ follows_expected
    refine follows_fuel.bind fun count =>
      (follows_listed (follows_member hmerge hexpr)).bind fun members => ?_
    refine follows_expect.bind fun _ => (follows_spanFrom hmerge).bind fun span => follows_pure ?_
    rw [Expr.mapSpans, mapMembers_eq_map]

theorem follows_functionBehind {parameter : String} :
    Follows change (Expr.mapSpans change) (functionBehind expr parameter start)
      (functionBehind expr parameter (change start)) := by
  refine follows_skip.bind fun found => follows_ite ?_ ?_
  · refine follows_fuel.bind fun count =>
      (follows_blockOf (follows_statement hmerge hexpr)).bind fun statements => ?_
    refine follows_expect.bind fun _ => (follows_spanFrom hmerge).bind fun span => follows_pure ?_
    rw [Expr.mapSpans, mapCalls_eq_map]
  · exact hexpr.bind fun body => (follows_spanFrom hmerge).bind fun span => follows_pure rfl

theorem follows_pathOrCall : Follows change (Expr.mapSpans change) (pathOrCall expr start)
    (pathOrCall expr (change start)) := by
  have hcallForm : Follows change (Expr.mapSpans change)
      (do throw ⟨.callForm, ← spanFrom start⟩) (do throw ⟨.callForm, ← spanFrom (change start)⟩) :=
    (follows_spanFrom hmerge).bind fun span => follows_throw rfl
  refine follows_path.bind fun segments => follows_get_bind fun cursor => ?_
  rw [Cursor.isAt_mapSpans]
  refine follows_ite ?_ ((follows_spanFrom hmerge).bind fun span => follows_pure rfl)
  rcases segments with - | ⟨target, - | ⟨method, - | ⟨more, segments⟩⟩⟩
  · exact hcallForm
  · exact hcallForm
  · exact (follows_callBehind hmerge hexpr).bind fun nested => follows_pure rfl
  · exact hcallForm

end Nested

section Whole

variable (hmerge : ∀ a b : Span, change (a.merge b) = (change a).merge (change b))

include hmerge

theorem follows_expression {depth : Nat} :
    Follows change (Expr.mapSpans change) (expression depth) (expression depth) := by
  induction depth with
  | zero => exact follows_expected
  | succ depth ih =>
    have hnumber {negative : Bool} {start : Span} : Follows change (Expr.mapSpans change)
        (do return .constant (← number negative) (← spanFrom start))
        (do return .constant (← number negative) (← spanFrom (change start))) :=
      follows_number.bind fun value => (follows_spanFrom hmerge).bind fun span => follows_pure rfl
    rw [expression]
    refine follows_get_bind fun before => follows_get_bind fun cursor => ?_
    rw [Cursor.kind_current_mapSpans, Cursor.span_current_mapSpans]
    cases cursor.current.kind with
    | integer value => exact hnumber
    | long value => exact hnumber
    | double value => exact hnumber
    | string value => exact follows_literal hmerge
    | identifier name =>
      refine follows_label.bind fun parameter => ?_
      cases parameter with
      | some parameter => exact follows_functionBehind hmerge ih
      | none => exact follows_pathOrCall hmerge ih
    | keyword word =>
      cases word with
      | true => exact follows_literal hmerge
      | false => exact follows_literal hmerge
      | null => exact follows_literal hmerge
      | new => exact follows_advance.bind fun _ => follows_newValue hmerge ih
    | punctuation mark =>
      cases mark with
      | minus => exact follows_advance.bind fun _ => hnumber
      | _ => exact follows_expected
    | endOfInput => exact follows_expected
    | invalid error => exact follows_expected

theorem follows_nextStatement :
    Follows change (Call.mapSpans change) nextStatement nextStatement :=
  follows_fuel.bind fun _ => follows_statement hmerge (follows_expression hmerge)

/-- The reader of scripts gives on moved tokens the same statements with all their spans moved, or
the same error at its new place. -/
theorem follows_program : Follows change (List.map (Call.mapSpans change)) program program :=
  follows_fuel.bind fun _ => follows_untilEnd (follows_nextStatement hmerge)

end Whole

end Parser

/-! ### Whole scripts -/

/-- What a parser gives, without the place that it has reached. -/
def Parser.outcome {α : Type} : EStateM.Result ParseError Cursor α → Except ParseError α
  | .ok value _ => .ok value
  | .error error _ => .error error

/-- What is read from a place up to the end. -/
def parseFrom (cursor : Cursor) : Except ParseError (List Call) :=
  Parser.outcome (Parser.program cursor)

theorem parseFrom_ofSource (source : String) : parseFrom (.ofSource source) = parse source := by
  rw [parseFrom, parse]
  cases Parser.program (.ofSource source) <;> rfl

/-- The same statements with all their spans moved, or the same error at its new place. -/
def movedParse (change : Span → Span) :
    Except ParseError (List Call) → Except ParseError (List Call)
  | .ok statements => .ok (statements.map (Call.mapSpans change))
  | .error error => .error (error.mapSpan change)

theorem parseFrom_mapSpans
    (hmerge : ∀ a b : Span, change (a.merge b) = (change a).merge (change b)) (cursor : Cursor) :
    parseFrom (cursor.mapSpans change) = movedParse change (parseFrom cursor) := by
  rw [parseFrom, parseFrom, Parser.follows_program hmerge cursor]
  cases Parser.program cursor <;> rfl

end MigrationScript
