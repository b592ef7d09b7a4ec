import MigrationScript.Proofs.Token.Double

/-!
# Pieces of text

A written text is put together from pieces. A piece has tokens of its own if nothing behind it can
be joined to its last token, which is asked of what follows (`Apart`) and not of the piece.
-/

namespace MigrationScript

namespace Lexer

variable {c : Char} {text first second rest : List Char} {kinds others : List TokenKind}

/-! ### Texts that end what stands in front of them -/

theorem apart_nil : Apart [] :=
  ⟨fun _ hc => absurd hc (Option.not_mem_none _), Option.some_ne_none _ |>.symm⟩

theorem apart_cons (hpart : isIdentifierPart c = false) (hpoint : c ≠ '.') : Apart (c :: rest) := by
  constructor
  · rintro other ⟨⟩
    exact hpart
  · exact fun heq => hpoint (Option.some.inj heq)

theorem apart_of_isBlank (hblank : isBlank c = true) : Apart (c :: rest) := by
  have hpart : isIdentifierPart c = false := by
    cases h : isIdentifierPart c with
    | false => rfl
    | true =>
      rw [isBlank_of_isIdentifierPart h] at hblank
      exact hblank.symm
  exact apart_cons hpart (ne_of_class hblank (by decide))

theorem Apart.append (htext : Apart text) (hrest : Apart rest) : Apart (text ++ rest) := by
  cases text with
  | nil => exact hrest
  | cons c text => exact ⟨htext.cut, htext.point⟩

/-! ### Spelling -/

/-- The text is read as tokens of the kinds, if nothing behind it could be joined to it. -/
def Spells (text : List Char) (kinds : List TokenKind) : Prop :=
  ∀ rest, Apart rest → kindsOf (text ++ rest) = kinds ++ kindsOf rest

namespace Spells

theorem nil : Spells [] [] :=
  fun _ _ => rfl

theorem append (hfirst : Spells first kinds) (hsecond : Spells second others)
    (hapart : Apart second) : Spells (first ++ second) (kinds ++ others) := by
  intro rest hrest
  calc kindsOf (first ++ second ++ rest)
      = kindsOf (first ++ (second ++ rest)) := by rw [List.append_assoc]
    _ = kinds ++ kindsOf (second ++ rest) := hfirst _ (hapart.append hrest)
    _ = kinds ++ others ++ kindsOf rest := by rw [hsecond rest hrest, List.append_assoc]

theorem blank (hblank : isBlank c = true) (h : Spells text kinds) : Spells (c :: text) kinds := by
  intro rest hrest
  rw [List.cons_append, kindsOf_blank hblank, h rest hrest]

theorem mark {mark : Punctuation} (hmark : punctuation? c = some mark) (hequals : c ≠ '=')
    (h : Spells text kinds) : Spells (c :: text) (.punctuation mark :: kinds) := by
  intro rest hrest
  rw [List.cons_append, kindsOf_mark hmark hequals, h rest hrest, List.cons_append]

theorem equals (hne : c ≠ '>') (h : Spells (c :: text) kinds) :
    Spells ('=' :: c :: text) (.punctuation .equals :: kinds) := by
  intro rest hrest
  have hrest' := h rest hrest
  rw [List.cons_append] at hrest'
  rw [List.cons_append, List.cons_append, kindsOf_equals hne, hrest', List.cons_append]

theorem arrow (h : Spells text kinds) :
    Spells ('=' :: '>' :: text) (.punctuation .arrow :: kinds) := by
  intro rest hrest
  rw [List.cons_append, List.cons_append, kindsOf_arrow, h rest hrest, List.cons_append]

/-- A word in front of a text that does not go on with it; a point may follow. -/
theorem word {word : List Char} (hword : Identifier.isWord word = true) (hcut : Cut text)
    (hne : text ≠ []) (h : Spells text kinds) :
    Spells (word ++ text) (wordKind word :: kinds) := by
  intro rest hrest
  have hcut' : Cut (text ++ rest) := by
    cases text with
    | nil => exact absurd rfl hne
    | cons c text => exact hcut
  rw [List.append_assoc, kindsOf_word hword hcut', h rest hrest, List.cons_append]

theorem comma (h : Spells text kinds) :
    Spells (text ++ [',']) (kinds ++ [.punctuation .comma]) :=
  h.append (nil.mark rfl (by decide)) (apart_cons (by decide) (by decide))

end Spells

/-! ### The end of a call -/

theorem spells_close : Spells ");".toList [.punctuation .rightParen, .punctuation .semicolon] :=
  (Spells.nil.mark (c := ';') rfl (by decide)).mark (c := ')') rfl (by decide)

theorem apart_close : Apart ");".toList :=
  apart_cons (by decide) (by decide)

/-! ### Words -/

theorem spells_word {word : List Char} (hword : Identifier.isWord word = true) :
    Spells word [wordKind word] :=
  fun _ hrest => kindsOf_word hword hrest.cut

/-! ### Names -/

theorem wordKind_of_isReserved {name : String} (h : Identifier.isReserved name = false) :
    wordKind name.toList = .identifier name := by
  rw [wordKind, String.ofList_toList]
  cases hkeyword : Keyword.ofText? name with
  | none => rfl
  | some keyword =>
    rw [Identifier.isReserved, hkeyword] at h
    exact absurd h.symm Bool.false_ne_true

theorem spells_name {name : String} (h : Identifier.isValid name = true) :
    Spells name.toList [.identifier name] := by
  obtain ⟨hword, hreserved⟩ := Identifier.isValid_iff.mp h
  rw [← wordKind_of_isReserved hreserved]
  exact spells_word hword

/-- A name and a mark in front of a text. -/
theorem Spells.named {name : String} {mark : Punctuation} (hname : Identifier.isValid name = true)
    (hmark : punctuation? c = some mark) (hequals : c ≠ '=') (hpart : isIdentifierPart c = false)
    (h : Spells text kinds) :
    Spells (name.toList ++ c :: text) (.identifier name :: .punctuation mark :: kinds) := by
  obtain ⟨hword, hreserved⟩ := Identifier.isValid_iff.mp hname
  have hcut : Cut (c :: text) := by
    rintro other ⟨⟩
    exact hpart
  rw [← wordKind_of_isReserved hreserved]
  exact (h.mark hmark hequals).word hword hcut (List.cons_ne_nil _ _)

/-- A parameter and an arrow in front of the text of a body. -/
theorem Spells.function {name : String} (hname : Identifier.isValid name = true)
    (h : Spells text kinds) :
    Spells (name.toList ++ ' ' :: '=' :: '>' :: text)
      (.identifier name :: .punctuation .arrow :: kinds) := by
  obtain ⟨hword, hreserved⟩ := Identifier.isValid_iff.mp hname
  have hcut : Cut (' ' :: '=' :: '>' :: text) := by
    rintro other ⟨⟩
    decide
  rw [← wordKind_of_isReserved hreserved]
  exact (h.arrow.blank rfl).word hword hcut (List.cons_ne_nil _ _)

/-- The written form of a word is one token, the name, also where the word is reserved. -/
theorem scan_render {name : String} (hword : Identifier.isWord name.toList = true) :
    ∃ c read, (Identifier.render name).toList = c :: read ∧ isBlank c = false ∧ c ≠ '/' ∧
      ∀ rest, Cut rest → scan c (read ++ rest) = ⟨.identifier name, c :: read, rest⟩ := by
  unfold Identifier.render
  by_cases hreserved : Identifier.isReserved name = true
  · have htext : s!"@{name}".toList = '@' :: name.toList := by
      rw [String.toList_append]
      rfl
    refine ⟨'@', name.toList, ?_, by decide, by decide, fun rest hrest => ?_⟩
    · rw [if_pos hreserved, htext]
    · rw [scan_at hword hrest, String.ofList_toList]
  · have hkind := wordKind_of_isReserved (Bool.eq_false_iff.mpr hreserved)
    rw [if_neg hreserved]
    cases htext : name.toList with
    | nil => rw [htext] at hword; cases hword
    | cons c read =>
      rw [htext] at hword hkind
      obtain ⟨hblank, hslash⟩ := isBlank_of_isWord hword
      refine ⟨c, read, rfl, hblank, hslash, fun rest hrest => ?_⟩
      rw [scan_word hword hrest, hkind]

theorem spells_render {name : String} (hword : Identifier.isWord name.toList = true) :
    Spells (Identifier.render name).toList [.identifier name] := by
  obtain ⟨c, read, htext, hblank, hslash, hscan⟩ := scan_render hword
  intro rest hrest
  rw [htext, List.cons_append, kindsOf_cons hblank hslash, hscan rest hrest.cut]
  rfl

end Lexer

end MigrationScript
