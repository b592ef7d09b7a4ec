import MigrationScript.Proofs.Script.Value
import MigrationScript.Proofs.Script.Writer

namespace MigrationScript

open Lexer

/-- The lines are read as tokens of the kinds, one line behind the other. -/
inductive SpellsLines : List Line → List TokenKind → Prop
  | nil : SpellsLines [] []
  | cons {line : Line} {lines : List Line} {kinds others : List TokenKind} :
    Spells line.text kinds → SpellsLines lines others →
      SpellsLines (line :: lines) (kinds ++ others)

namespace SpellsLines

variable {lines first second : List Line} {kinds others : List TokenKind}

theorem append (hfirst : SpellsLines first kinds) (hsecond : SpellsLines second others) :
    SpellsLines (first ++ second) (kinds ++ others) := by
  induction hfirst with
  | nil => exact hsecond
  | cons hline _ ih =>
    rw [List.cons_append, List.append_assoc]
    exact .cons hline ih

theorem indent (h : SpellsLines lines kinds) : SpellsLines (lines.map (·.indent)) kinds := by
  induction h with
  | nil => exact .nil
  | cons hline _ ih => exact .cons hline ih

theorem single {text : List Char} (level : Nat) (h : Spells text kinds) :
    SpellsLines [⟨level, text⟩] kinds := by
  rw [← List.append_nil kinds]
  exact .cons h .nil

/-- The layout of lines adds white space only. -/
theorem kindsOf_render (h : SpellsLines lines kinds) (layout : Layout) (rest : List Char) :
    kindsOf (lines.flatMap (·.render layout) ++ rest) = kinds ++ kindsOf rest := by
  induction h with
  | nil => rfl
  | @cons line lines kinds others hline _ ih =>
    have hindent : ∀ c ∈ List.replicate (line.level * layout.indentWidth.toNat) ' ',
        isBlank c = true := by
      intro c hc
      rw [List.eq_of_mem_replicate hc]
      decide
    have hending : ∀ c ∈ layout.ending.text.toList, isBlank c = true := by
      refine List.all_eq_true.mp ?_
      cases layout.ending <;> rfl
    have hapart (behind : List Char) : Apart (layout.ending.text.toList ++ behind) := by
      cases layout.ending <;> exact apart_of_isBlank (by decide)
    rw [List.flatMap_cons, Line.render, List.append_assoc, List.append_assoc, List.append_assoc]
    calc kindsOf (_ ++ (line.text ++ (layout.ending.text.toList ++ _)))
        = kindsOf (line.text ++ (layout.ending.text.toList ++ _)) := kindsOf_blanks hindent
      _ = kinds ++ kindsOf (layout.ending.text.toList ++ _) := hline _ (hapart _)
      _ = kinds ++ (others ++ kindsOf rest) := by rw [kindsOf_blanks hending, ih]
      _ = kinds ++ others ++ kindsOf rest := (List.append_assoc _ _ _).symm

end SpellsLines

/-- The tokens of the lines spell the value in the given form. -/
def WritesLines {α : Type} (lines : List Line) (form : Form α) (value : α) : Prop :=
  ∃ kinds, SpellsLines lines kinds ∧ form kinds value

section Terminated

variable {α β : Type} {form : Form β} {text : α → List Char} {tree : α → β} {items : List α}

/-- Items on a line each, with a comma behind all but the last. -/
theorem spellsLines_terminated {last : List Char} {lastKinds : List TokenKind} (level : Nat)
    (hitems : ∀ item ∈ items, Writes (text item) form (tree item)) (hne : items ≠ [])
    (hlast : Spells last lastKinds) (hapart : Apart last) :
    ∃ kinds, Separated form kinds (items.map tree) ∧
      SpellsLines ((terminated [','] last (items.map text)).map fun text => ⟨level, text⟩)
        (kinds ++ lastKinds) := by
  induction items with
  | nil => exact absurd rfl hne
  | cons first rest ih =>
    obtain ⟨kinds, hspells, hform⟩ := hitems first List.mem_cons_self
    cases rest with
    | nil => exact ⟨kinds, .last hform, .single level (hspells.append hlast hapart)⟩
    | cons second rest =>
      obtain ⟨others, hseparated, hlines⟩ :=
        ih (fun item hitem => hitems item (List.mem_cons_of_mem _ hitem)) (List.cons_ne_nil _ _)
      refine ⟨_, .cons hform hseparated, ?_⟩
      rw [List.append_cons, List.append_assoc]
      exact .cons hspells.comma hlines

/-- Items on a line each, with a comma behind each of them. -/
theorem spellsLines_commas (level : Nat)
    (hitems : ∀ item ∈ items, Writes (text item) form (tree item)) :
    ∃ kinds, SpellsLines (items.map fun item => ⟨level, text item ++ [',']⟩) kinds ∧
      ∀ {rest : List TokenKind} {others : List β}, Separated form rest others →
        Separated form (kinds ++ rest) (items.map tree ++ others) := by
  induction items with
  | nil => exact ⟨[], .nil, id⟩
  | cons first rest ih =>
    obtain ⟨kinds, hspells, hform⟩ := hitems first List.mem_cons_self
    obtain ⟨others, hlines, hseparated⟩ :=
      ih fun item hitem => hitems item (List.mem_cons_of_mem _ hitem)
    refine ⟨_, .cons hspells.comma hlines, fun hrest => ?_⟩
    rw [List.append_assoc, List.append_assoc]
    exact .cons hform (hseparated hrest)

end Terminated

/-! ### Arguments -/

namespace WrittenArgument

def tree (argument : WrittenArgument) : Argument :=
  ⟨some argument.name, argument.value.tree, default⟩

/-- The arguments of a call, of which a single one may be without its name. -/
def trees (naming : Naming) (arguments : List WrittenArgument) : List Argument :=
  match naming, arguments with
  | .positionalWhenAlone, [argument] => [⟨none, argument.value.tree, default⟩]
  | _, arguments => arguments.map tree

variable {arguments : List WrittenArgument}

theorem writes_text {argument : WrittenArgument} (hname : Identifier.isValid argument.name = true) :
    Writes argument.text (ArgumentForm ExprForm) argument.tree := by
  obtain ⟨kinds, hspells, hform⟩ := argument.value.writes
  have hvalue := hspells.blank (c := ' ') rfl
  refine ⟨_, ?_, .named hform⟩
  unfold text
  rw [List.append_assoc]
  exact hvalue.named hname rfl (by decide) (by decide)

/-- The texts of arguments and their trees are taken one by one. -/
theorem exists_texts (naming : Naming)
    (hnames : ∀ argument ∈ arguments, Identifier.isValid argument.name = true) :
    ∃ text tree, texts naming arguments = arguments.map text ∧
      trees naming arguments = arguments.map tree ∧
      ∀ argument ∈ arguments, Writes (text argument) (ArgumentForm ExprForm) (tree argument) := by
  have hnamed : ∀ argument ∈ arguments,
      Writes argument.text (ArgumentForm ExprForm) argument.tree :=
    fun argument hargument => writes_text (hnames argument hargument)
  match naming, arguments with
  | .positionalWhenAlone, [argument] =>
    refine ⟨fun argument => argument.value.text,
      fun argument => ⟨none, argument.value.tree, default⟩, rfl, rfl, fun argument _ => ?_⟩
    obtain ⟨kinds, hspells, hform⟩ := argument.value.writes
    exact ⟨kinds, hspells, .positional hform⟩
  | .named, arguments => exact ⟨text, tree, rfl, rfl, hnamed⟩
  | .positionalWhenAlone, [] => exact ⟨text, tree, rfl, rfl, hnamed⟩
  | .positionalWhenAlone, _ :: _ :: _ => exact ⟨text, tree, rfl, rfl, hnamed⟩

end WrittenArgument

/-! ### Calls -/

/-- The head of a call in front of its arguments. -/
theorem Lexer.Spells.call {target method : String} {text : List Char} {kinds : List TokenKind}
    (htarget : Identifier.isValid target = true) (hmethod : Identifier.isValid method = true)
    (h : Spells text kinds) :
    Spells (target.toList ++ '.' :: (method.toList ++ '(' :: text))
      (.identifier target :: .punctuation .dot :: .identifier method ::
        .punctuation .leftParen :: kinds) :=
  (h.named hmethod rfl (by decide) (by decide)).named htarget rfl (by decide) (by decide)

section Calls

variable {target : String} {shape : CallShape} {arguments : List WrittenArgument}

theorem callLines_writes (htarget : Identifier.isValid target = true)
    (hmethod : Identifier.isValid shape.method = true)
    (hnames : ∀ argument ∈ arguments, Identifier.isValid argument.name = true)
    (hne : arguments ≠ []) :
    WritesLines (callLines target shape arguments) (StatementForm ExprForm)
      ⟨target, shape.method, WrittenArgument.trees shape.naming arguments, default⟩ := by
  obtain ⟨text, tree, htexts, htrees, hwrites⟩ := WrittenArgument.exists_texts shape.naming hnames
  have hhead := Spells.nil.call htarget hmethod
  rw [htrees]
  unfold callLines
  rw [htexts]
  cases shape.arrangement with
  | inline =>
    obtain ⟨kinds, hspells, hseparated⟩ := writes_joined hwrites hne
    have hline := (hspells.append spells_close apart_close).call htarget hmethod
    refine ⟨_, .single 0 ?_, .call (.arguments hseparated)⟩
    simp only [callKinds, List.cons_append, List.append_assoc, List.nil_append] at hline ⊢
    exact hline
  | block =>
    obtain ⟨kinds, hseparated, hlines⟩ :=
      spellsLines_terminated 1 hwrites hne spells_close apart_close
    refine ⟨_, ?_, .call (.arguments hseparated)⟩
    have hall := (SpellsLines.single 0 hhead).append hlines
    simp only [callKinds, List.cons_append, List.append_assoc, List.nil_append] at hall ⊢
    exact hall

end Calls

end MigrationScript
