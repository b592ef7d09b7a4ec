import MigrationScript.Proofs.Token.Spelling
import MigrationScript.Proofs.Tree.Grammar
import MigrationScript.Script.Call

namespace MigrationScript

open Lexer

/-- The tokens of the text spell the value in the given form. -/
def Writes {α : Type} (text : List Char) (form : Form α) (value : α) : Prop :=
  ∃ kinds, Spells text kinds ∧ form kinds value

section Lists

variable {α β : Type} {form : Form β} {text : α → List Char} {tree : α → β} {items : List α}

theorem joined_cons (first second : List Char) (rest : List (List Char)) :
    Literal.joined (first :: second :: rest) =
      first ++ ',' :: ' ' :: Literal.joined (second :: rest) := by
  rw [Literal.joined, List.intercalate_cons_cons, List.append_assoc]
  rfl

theorem writes_joined (hitems : ∀ item ∈ items, Writes (text item) form (tree item))
    (hne : items ≠ []) :
    Writes (Literal.joined (items.map text)) (Separated form) (items.map tree) := by
  induction items with
  | nil => exact absurd rfl hne
  | cons first rest ih =>
    obtain ⟨kinds, hspells, hform⟩ := hitems first List.mem_cons_self
    cases rest with
    | nil =>
      have hsingle : Literal.joined [text first] = text first := List.intercalate_singleton
      exact ⟨kinds, hsingle.symm ▸ hspells, .last hform⟩
    | cons second rest =>
      obtain ⟨others, hothers, hseparated⟩ :=
        ih (fun item hitem => hitems item (List.mem_cons_of_mem _ hitem)) (List.cons_ne_nil _ _)
      have hcomma := (hothers.blank (c := ' ') rfl).mark (c := ',') rfl (by decide)
      refine ⟨_, ?_, .cons hform hseparated⟩
      rw [List.map_cons, List.map_cons, joined_cons]
      exact hspells.append hcomma (apart_cons (by decide) (by decide))

theorem writes_listed (hitems : ∀ item ∈ items, Writes (text item) form (tree item)) :
    Writes (Literal.joined (items.map text)) (Listed form) (items.map tree) := by
  by_cases hne : items = []
  · subst hne
    exact ⟨[], Spells.nil, .nil⟩
  · obtain ⟨kinds, hspells, hform⟩ := writes_joined hitems hne
    exact ⟨kinds, hspells, .separated hform⟩

end Lists

/-! ### The expressions of values -/

/-- The expression of a double; those without digits have a name. -/
def Double.tree (value : Double) : Expr :=
  if value.isNaN then .path ["double", "NaN"] default
  else if value.isInfinite then
    .path ["double", if value.isNegative then "NegativeInfinity" else "PositiveInfinity"] default
  else .constant (.double value) default

def DefaultValue.tree : DefaultValue → Expr
  | .bool value => .constant (.bool value) default
  | .int value => .constant (.integer value.toInt false) default
  | .long value => .constant (.integer value.toInt true) default
  | .double value => value.tree
  | .string value => .constant (.string value) default

/-- The path that selects a column. -/
def columnPath (column : String) : List String :=
  ["x", Identifier.derive column]

/-- The body of a function that selects columns. -/
def selectorBody (columns : List String) : Expr :=
  match columns with
  | [column] => .path (columnPath column) default
  | columns => .object (columns.map fun column => .path (columnPath column) default) default

def WrittenValue.tree : WrittenValue → Expr
  | .constant value => value.tree
  | .action value => .path ["ReferentialAction", value.name] default
  | .strings texts => .array (texts.map fun text => .constant (.string text) default) default
  | .selector columns => .function "x" (selectorBody columns) default

/-! ### Constants -/

theorem writes_string (text : String) :
    Writes (Literal.string text) ExprForm (.constant (.string text) default) :=
  ⟨[.string text], fun rest _ => kindsOf_string text rest, .string⟩

theorem writes_bool (value : Bool) :
    Writes (Literal.bool value) ExprForm (.constant (.bool value) default) := by
  cases value with
  | false => exact ⟨[.keyword .false], spells_word (by decide), .false⟩
  | true => exact ⟨[.keyword .true], spells_word (by decide), .true⟩

/-- A number behind a minus sign, or without one. -/
theorem writes_signed {digits : List Char} {kind : TokenKind} {value : Constant} (negative : Bool)
    (hdigits : Spells digits [kind]) (hnumber : NumberForm kind value) :
    Writes (if negative then '-' :: digits else digits) ExprForm
      (.constant (if negative then value.negate else value) default) := by
  cases negative with
  | false => exact ⟨[kind], hdigits, .number hnumber⟩
  | true => exact ⟨_, hdigits.mark rfl (by decide), .negative hnumber⟩

/-- The digits of an integer, with what stands behind them. -/
theorem writes_integer {value : Int} {kind : Nat → TokenKind} {isLong : Bool} (mark : List Char)
    (hdigits : Spells (Nat.toDigits 10 value.natAbs ++ mark) [kind value.natAbs])
    (hnumber : NumberForm (kind value.natAbs) (.integer value.natAbs isLong)) :
    Writes (integerText value ++ mark) ExprForm (.constant (.integer value isLong) default) := by
  have hwrites := writes_signed (decide (value < 0)) hdigits hnumber
  unfold integerText
  by_cases hnegative : value < 0
  · have hvalue : -(value.natAbs : Int) = value := by omega
    rw [decide_eq_true hnegative, if_pos rfl, if_pos rfl, Constant.negate, hvalue] at hwrites
    rw [if_pos hnegative]
    exact hwrites
  · have hvalue : (value.natAbs : Int) = value := by omega
    rw [decide_eq_false hnegative, if_neg Bool.false_ne_true, if_neg Bool.false_ne_true,
      hvalue] at hwrites
    rw [if_neg hnegative]
    exact hwrites

theorem writes_int (value : Int32) :
    Writes (Literal.int value) ExprForm (.constant (.integer value.toInt false) default) := by
  have hlow := value.le_toInt
  have hhigh := value.toInt_lt
  have hsize : value.toInt.natAbs < UInt64.size := by
    simp only [UInt64.size]
    omega
  have hdigits : Spells (Nat.toDigits 10 value.toInt.natAbs ++ [])
      [.integer value.toInt.natAbs] := by
    intro rest hrest
    rw [List.append_nil]
    exact kindsOf_integer hsize hrest
  have hwrites := writes_integer [] hdigits .integer
  rwa [List.append_nil] at hwrites

theorem writes_long (value : Int64) :
    Writes (Literal.long value) ExprForm (.constant (.integer value.toInt true) default) := by
  have hlow := value.le_toInt
  have hhigh := value.toInt_lt
  have hsize : value.toInt.natAbs < UInt64.size := by
    simp only [UInt64.size]
    omega
  have hdigits : Spells (Nat.toDigits 10 value.toInt.natAbs ++ ['L'])
      [.long value.toInt.natAbs] := by
    intro rest _
    rw [List.append_assoc]
    exact kindsOf_long hsize
  exact writes_integer ['L'] hdigits .long

/-- Two names with a point between them. -/
theorem writes_pair {first second : String} {text : List Char}
    (hfirst : Identifier.isValid first = true) (hsecond : Spells text [.identifier second]) :
    Writes (first.toList ++ '.' :: text) PathForm [first, second] :=
  ⟨_, hsecond.named hfirst rfl (by decide) (by decide), .cons .last⟩

theorem Writes.path {text : List Char} {segments : List String}
    (h : Writes text PathForm segments) : Writes text ExprForm (.path segments default) := by
  obtain ⟨kinds, hspells, hpath⟩ := h
  exact ⟨kinds, hspells, .path hpath⟩

/-- The doubles without digits are written as members of `double`. -/
theorem writes_namedDouble (name : String) (hname : Identifier.isValid name = true) :
    Writes ("double".toList ++ '.' :: name.toList) ExprForm (.path ["double", name] default) := by
  have hdouble : Identifier.isValid "double" = true := by decide
  exact (writes_pair hdouble (spells_name hname)).path

theorem writes_finiteDouble {value : Double}
    (hfinite : value.magnitude < Double.infiniteMagnitude) :
    Writes (value.finiteText Double.scriptStyle) ExprForm (.constant (.double value) default) := by
  have hvalue := value.ofMagnitude_magnitude
  refine ⟨_, fun rest hrest => Double.kindsOf_finiteText hfinite hrest, ?_⟩
  cases hnegative : value.isNegative with
  | false =>
    rw [hnegative] at hvalue
    rw [hvalue]
    exact .number .double
  | true =>
    have hpositive := Double.isNegative_ofMagnitude false value.magnitude_lt
    have hmagnitude := Double.magnitude_ofMagnitude false value.magnitude_lt
    have hnegate : (Double.ofMagnitude false value.magnitude).negate = value := by
      rw [Double.negate, hpositive, hmagnitude, Bool.not_false, ← hnegative, hvalue]
    have hnumber : NumberForm (.double (.ofMagnitude false value.magnitude)) _ := .double
    have hform := ExprForm.negative hnumber
    rw [Constant.negate, hnegate] at hform
    exact hform

theorem writes_double (value : Double) : Writes (Literal.double value) ExprForm value.tree := by
  unfold Literal.double Double.tree
  by_cases hnumber : value.isNaN = true
  · rw [if_pos hnumber, if_pos hnumber]
    exact writes_namedDouble "NaN" (by decide)
  rw [if_neg hnumber, if_neg hnumber]
  by_cases hinfinite : value.isInfinite = true
  · rw [if_pos hinfinite, if_pos hinfinite]
    cases value.isNegative with
    | false => exact writes_namedDouble "PositiveInfinity" (by decide)
    | true => exact writes_namedDouble "NegativeInfinity" (by decide)
  · rw [if_neg hinfinite, if_neg hinfinite]
    have hfinite : value.magnitude < Double.infiniteMagnitude := by
      simp only [Double.isNaN, Double.isInfinite, decide_eq_true_eq, beq_iff_eq]
        at hnumber hinfinite
      omega
    exact writes_finiteDouble hfinite

theorem DefaultValue.writes (value : DefaultValue) :
    Writes (Literal.defaultValue value) ExprForm value.tree := by
  cases value with
  | bool value => exact writes_bool value
  | int value => exact writes_int value
  | long value => exact writes_long value
  | double value => exact writes_double value
  | string value => exact writes_string value

/-! ### Values -/

theorem writes_action (action : ReferentialAction) :
    Writes (Literal.action action) ExprForm
      (.path ["ReferentialAction", action.name] default) := by
  have hname : Identifier.isValid action.name = true := by
    cases action <;> decide
  have htarget : Identifier.isValid "ReferentialAction" = true := by decide
  have htext : "ReferentialAction.".toList = "ReferentialAction".toList ++ ['.'] := rfl
  unfold Literal.action
  rw [htext, List.append_assoc]
  exact (writes_pair htarget (spells_name hname)).path

/-- Items between braces, with a blank on both sides. -/
theorem Lexer.Spells.braced {text : List Char} {kinds : List TokenKind} (h : Spells text kinds) :
    Spells ('\x7b' :: ' ' :: (text ++ " \x7d".toList))
      (.punctuation .leftBrace :: (kinds ++ [.punctuation .rightBrace])) := by
  have hclose : Spells " \x7d".toList [.punctuation .rightBrace] :=
    (Spells.nil.mark (c := '\x7d') rfl (by decide)).blank (c := ' ') rfl
  have hitems := h.append hclose (apart_of_isBlank rfl)
  exact (hitems.blank (c := ' ') rfl).mark rfl (by decide)

theorem Lexer.Spells.new {c : Char} {text : List Char} {kinds : List TokenKind}
    (hpart : isIdentifierPart c = false) (h : Spells (c :: text) kinds) :
    Spells ("new".toList ++ c :: text) (.keyword .new :: kinds) := by
  have hcut : Cut (c :: text) := by
    rintro other ⟨⟩
    exact hpart
  exact h.word (by decide) hcut (List.cons_ne_nil _ _)

theorem writes_strings (texts : List String) :
    Writes (Literal.strings texts) ExprForm
      (.array (texts.map fun text => .constant (.string text) default) default) := by
  have hitem : ∀ text ∈ texts,
      Writes (Literal.string text) ExprForm (.constant (.string text) default) :=
    fun text _ => writes_string text
  obtain ⟨kinds, hspells, hlisted⟩ := writes_listed hitem
  have hbracket := (hspells.braced.blank (c := ' ') rfl).mark (c := ']') rfl (by decide)
  have hnew := Spells.new (by decide) (hbracket.mark (c := '[') rfl (by decide))
  have htext (items : List Char) : "new[] \x7b ".toList ++ items =
      "new".toList ++ '[' :: ']' :: ' ' :: '\x7b' :: ' ' :: items := rfl
  unfold Literal.strings
  rw [List.append_assoc, htext]
  exact ⟨arrayKinds kinds, hnew, .array hlisted⟩

theorem writes_columnPath (column : String) :
    Writes ('x' :: '.' :: columnIdentifier column) PathForm (columnPath column) := by
  have hx : Identifier.isValid "x" = true := by decide
  exact writes_pair hx (spells_render (Identifier.isWord_derive column))

/-- A function of columns, from the text of its body. -/
theorem Writes.function {text : List Char} {body : Expr} (h : Writes text ExprForm body) :
    Writes ("x => ".toList ++ text) ExprForm (.function "x" body default) := by
  obtain ⟨kinds, hspells, hform⟩ := h
  have hx : Identifier.isValid "x" = true := by decide
  have htext : "x => ".toList = "x".toList ++ [' ', '=', '>', ' '] := rfl
  rw [htext, List.append_assoc]
  exact ⟨_, (hspells.blank rfl).function hx, .function hform⟩

theorem writes_selector (columns : List String) :
    Writes (selector columns) ExprForm (.function "x" (selectorBody columns) default) := by
  have hobject : Writes ("x => new \x7b ".toList ++
      Literal.joined (columns.map fun column => 'x' :: '.' :: columnIdentifier column) ++
        " \x7d".toList) ExprForm (.function "x" (.object (columns.map fun column =>
          .path (columnPath column) default) default) default) := by
    have hmember : ∀ column ∈ columns, Writes ('x' :: '.' :: columnIdentifier column)
        (MemberForm ExprForm) (.path (columnPath column) default) := by
      intro column _
      obtain ⟨kinds, hspells, hpath⟩ := writes_columnPath column
      exact ⟨kinds, hspells, .path hpath⟩
    obtain ⟨kinds, hspells, hlisted⟩ := writes_listed hmember
    have hnew := Spells.new (by decide) (hspells.braced.blank (c := ' ') rfl)
    have hbody : Writes _ ExprForm _ := ⟨objectKinds kinds, hnew, .object hlisted⟩
    have hfunction := hbody.function
    have htext (items : List Char) : "x => new \x7b ".toList ++ items =
        "x => ".toList ++ ("new".toList ++ ' ' :: '\x7b' :: ' ' :: items) := rfl
    rw [List.append_assoc, htext]
    exact hfunction
  match columns with
  | [] => exact hobject
  | [column] => exact (writes_columnPath column).path.function
  | first :: second :: rest => exact hobject

theorem WrittenValue.writes (value : WrittenValue) : Writes value.text ExprForm value.tree := by
  cases value with
  | constant value => exact value.writes
  | action action => exact writes_action action
  | strings texts => exact writes_strings texts
  | selector columns => exact writes_selector columns

end MigrationScript
