import MigrationScript.Proofs.Script.Quoted
import MigrationScript.Proofs.Token.Spelling

namespace MigrationScript

namespace Identifier

variable {name : String}

/-- A name without characters that an identifier cannot hold, and with a first one that it can
start with, is its own identifier. -/
theorem derive_eq_self_iff : derive name = name ↔ isWord name.toList = true := by
  constructor
  · intro h
    rw [← h]
    exact isWord_derive name
  · intro hword
    have hkept : name.toList.filter isIdentifierPart = name.toList := by
      apply List.filter_eq_self.mpr
      exact List.all_eq_true.mp (Lexer.all_of_isWord hword)
    simp [derive, hkept, hword]

theorem derive_derive (name : String) : derive (derive name) = derive name :=
  derive_eq_self_iff.mpr (isWord_derive name)

theorem isWord_of_isReserved (h : isReserved name = true) : isWord name.toList = true := by
  obtain ⟨word, hword⟩ := Option.isSome_iff_exists.mp h
  rw [← Keyword.ofText?_eq_some_iff.mp hword]
  cases word <;> decide

/-- What is spelled like an identifier is one, or is reserved. -/
theorem isWord_iff : isWord name.toList = true ↔ isValid name = true ∨ isReserved name = true := by
  constructor
  · intro hword
    by_cases hreserved : isReserved name = true
    · exact .inr hreserved
    · exact .inl (isValid_iff.mpr ⟨hword, Bool.eq_false_iff.mpr hreserved⟩)
  · rintro (hvalid | hreserved)
    · exact (isValid_iff.mp hvalid).1
    · exact isWord_of_isReserved hreserved

theorem render_of_isValid (h : isValid name = true) : render name = name := by
  obtain ⟨-, hreserved⟩ := isValid_iff.mp h
  simp [render, hreserved]

end Identifier

namespace Lexer

variable {c : Char} {text rest : List Char} {name : String}

/-! ### Names that are read -/

theorem kind_scanWord (text : List Char) :
    (scanWord [] text).kind = wordKind (text.takeWhile isIdentifierPart) := by
  unfold scanWord wordKind
  dsimp only
  cases Keyword.ofText? (.ofList (text.takeWhile isIdentifierPart)) <;> rfl

theorem kind_scanMark_ne_identifier (c : Char) (rest : List Char) (name : String) :
    (scanMark c rest).kind ≠ .identifier name := by
  fun_cases scanMark c rest <;> simp

theorem Body.kind_lexeme_ne_identifier (body : Body) (mark : List Char) (name : String) :
    (body.lexeme mark).kind ≠ .identifier name := by
  unfold lexeme
  dsimp only
  split <;> simp

/-- A name is read from a word, or from one behind the mark of a name. -/
theorem scan_eq_scanWord (h : (scan c rest).kind = .identifier name) :
    isIdentifierStart c = true ∧ scan c rest = scanWord [] (c :: rest) ∨
      c = '@' ∧ scan c rest = scanWord ['@'] rest := by
  unfold scan at h ⊢
  split_ifs at h ⊢ with hquote hat hdigit hstart
  · exact absurd h (Body.kind_lexeme_ne_identifier _ _ _)
  · refine .inr ⟨hat, ?_⟩
    fun_cases scanAt rest with
    | case1 => exact absurd h (Body.kind_lexeme_ne_identifier _ _ _)
    | case2 => rfl
    | case3 c further _ hstart =>
      rw [scanAt, if_neg hstart] at h
      · cases h
      · assumption
    | case4 => cases h
  · have hnumber := isNumber_scanNumber (c :: rest)
    rw [h] at hnumber
    exact hnumber.elim
  · exact .inl ⟨hstart, rfl⟩
  · exact absurd h (kind_scanMark_ne_identifier _ _ _)

theorem isReserved_of_wordKind (h : wordKind text = .identifier name) :
    text = name.toList ∧ Identifier.isReserved name = false := by
  unfold wordKind at h
  split at h
  · cases h
  · rename_i hnone
    cases h
    rw [String.toList_ofList]
    exact ⟨rfl, by rw [Identifier.isReserved, hnone]; rfl⟩

/-- A text of which all is read as this very name is a valid name. -/
theorem isValid_of_scan (htext : name.toList = c :: rest)
    (hkind : (scan c rest).kind = .identifier name) : Identifier.isValid name = true := by
  obtain ⟨hstart, hscan⟩ | ⟨-, hscan⟩ := scan_eq_scanWord hkind
  · rw [hscan, kind_scanWord] at hkind
    obtain ⟨hname, hreserved⟩ := isReserved_of_wordKind hkind
    rw [htext, List.takeWhile_cons_of_pos (isIdentifierPart_of_start hstart)] at hname
    refine Identifier.isValid_iff.mpr ⟨?_, hreserved⟩
    rw [htext, Identifier.isWord, hstart, ← (List.cons.inj hname).2, List.all_takeWhile]
    rfl
  · -- The name behind the mark is shorter than the text.
    rw [hscan] at hkind
    have hname : String.ofList (rest.takeWhile isIdentifierPart) = name :=
      TokenKind.identifier.inj hkind
    have hlength := congrArg List.length htext
    rw [← hname, String.toList_ofList, List.length_cons] at hlength
    have hle := (List.takeWhile_prefix isIdentifierPart (l := rest)).length_le
    omega

/-- A source that is one token from its first byte to its last has no gap in front of it. -/
theorem exists_scan_of_tokenize {source : String} {kind : TokenKind}
    (h : tokenize source = [⟨kind, ⟨0, width source.toList⟩⟩,
      ⟨.endOfInput, ⟨width source.toList, width source.toList⟩⟩]) :
    ∃ c rest, source.toList = c :: rest ∧ (scan c rest).kind = kind := by
  have htokens : tokensFrom 0 source.toList = [⟨kind, ⟨0, width source.toList⟩⟩] := by
    apply List.append_cancel_right
    exact h
  rcases hgap : skipGap .blank source.toList with ⟨gap, - | ⟨c, rest⟩⟩
  · rw [tokensFrom_of_gap 0 hgap] at htokens
    cases htokens
  · rw [tokensFrom_of_token 0 hgap] at htokens
    obtain ⟨hfirst, -⟩ := List.cons.inj htokens
    obtain ⟨hkind, hspan⟩ := Token.mk.inj hfirst
    have hwidth : width gap = 0 := (Nat.zero_add _).symm.trans (Span.mk.inj hspan).1
    have hnil : gap = [] := by
      by_contra hne
      exact absurd hwidth (Nat.ne_of_gt (width_pos hne))
    have htext := skipGap_append .blank source.toList
    rw [hgap, hnil] at htext
    exact ⟨c, rest, htext.symm, hkind⟩

end Lexer

open Lexer

/-- In front of a text that does not go on with it, the written form of a word is read as the word
and no further. -/
theorem tokenize_render {name : String} (hword : Identifier.isWord name.toList = true)
    (following : String) (hcut : Cut following.toList) :
    tokenize (Identifier.render name ++ following) =
      ⟨.identifier name, ⟨0, width (Identifier.render name).toList⟩⟩ ::
        (tokenize following).map
          (Token.mapSpan (.shift (width (Identifier.render name).toList))) := by
  obtain ⟨c, read, htext, hblank, hslash, hscan⟩ := scan_render hword
  have hread := tokenize_append_of_scan following hblank hslash (hscan following.toList hcut)
  rwa [← htext, String.ofList_toList] at hread

/-- The rules for identifiers are those of the scanner: a name is valid exactly if its text is one
token, this name, from the first byte to the last. In front of a text that does not go on with it,
the written form of the identifier of a column is read as this identifier and no further. An
identifier is its own identifier, as is just what is valid or reserved. -/
theorem identifiers_are_names (name following : String) :
    (Identifier.isValid name = true ↔
      tokenize name = [⟨.identifier name, ⟨0, width name.toList⟩⟩,
        ⟨.endOfInput, ⟨width name.toList, width name.toList⟩⟩]) ∧
    ((∀ c ∈ following.toList.head?, isIdentifierPart c = false) →
      tokenize (Identifier.render (Identifier.derive name) ++ following) =
        ⟨.identifier (Identifier.derive name),
            ⟨0, width (Identifier.render (Identifier.derive name)).toList⟩⟩ ::
          (tokenize following).map
            (Token.mapSpan (.shift (width (Identifier.render (Identifier.derive name)).toList)))) ∧
    Identifier.derive (Identifier.derive name) = Identifier.derive name ∧
    (Identifier.derive name = name ↔
      Identifier.isValid name = true ∨ Identifier.isReserved name = true) := by
  refine ⟨⟨fun hvalid => ?_, fun htokens => ?_⟩, fun hcut => ?_, Identifier.derive_derive name, ?_⟩
  · have hread := tokenize_render (Identifier.isValid_iff.mp hvalid).1 "" nofun
    rw [Identifier.render_of_isValid hvalid, String.append_empty] at hread
    simpa [tokenize, Tokenized.ofSource, Tokenized.finish, Token.mapSpan, Span.shift] using hread
  · obtain ⟨c, rest, htext, hkind⟩ := exists_scan_of_tokenize htokens
    exact isValid_of_scan htext hkind
  · exact tokenize_render (Identifier.isWord_derive name) following hcut
  · rw [Identifier.derive_eq_self_iff, Identifier.isWord_iff]

/-- The column of a reserved name in front of an equals sign. -/
theorem identifiers_are_names_reserved :
    (∀ c ∈ " = 1".toList.head?, isIdentifierPart c = false) ∧
      tokenize "@new = 1" =
        ⟨.identifier "new", ⟨0, 4⟩⟩ :: (tokenize " = 1").map (Token.mapSpan (.shift 4)) := by
  have hcut : ∀ c ∈ " = 1".toList.head?, isIdentifierPart c = false := by
    have hhead : " = 1".toList.head? = some ' ' := by decide
    rw [hhead]
    rintro _ ⟨⟩
    decide
  have hread := (identifiers_are_names "n e-w!" " = 1").2.1 hcut
  have hderive : Identifier.derive "n e-w!" = "new" := by decide
  rw [hderive] at hread
  exact ⟨hcut, hread⟩

end MigrationScript
