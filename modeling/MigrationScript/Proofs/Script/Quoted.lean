import MigrationScript.Proofs.Script.Concatenation
import MigrationScript.Proofs.Script.Layout

namespace MigrationScript

open Lexer

namespace Literal

/-- One character of a text in which only a quote is special. -/
def doubled (c : Char) : List Char :=
  if c = '"' then ['"', '"'] else [c]

/-- A text behind the mark that says that its quotes are doubled. -/
def verbatim (text : String) : List Char :=
  '@' :: '"' :: text.toList.flatMap doubled ++ ['"']

end Literal

namespace Lexer

variable {text rest : List Char}

/-- Inside the quotes a text is read to its end and no further. -/
theorem scanString_literal (text rest : List Char) :
    scanString (text.flatMap Literal.char ++ '"' :: rest) =
      ⟨.ok text, text.flatMap Literal.char ++ ['"'], rest⟩ := by
  obtain ⟨hvalue, hrest⟩ := scanString_flatMap text rest
  have htext := scanString_append (text.flatMap Literal.char ++ '"' :: rest)
  rcases hbody : scanString (text.flatMap Literal.char ++ '"' :: rest) with ⟨value, read, behind⟩
  rw [hbody] at hvalue hrest htext
  dsimp only at hvalue hrest htext
  subst hvalue hrest
  rw [← List.singleton_append (l := behind), ← List.append_assoc] at htext
  rw [List.append_cancel_right htext]

theorem scanVerbatim_cons {c : Char} (rest : List Char) (hquote : c ≠ '"') :
    scanVerbatim (c :: rest) = (scanVerbatim rest).cons c [c] := by
  rw [scanVerbatim]
  · exact fun _ heq _ => hquote heq
  · exact hquote

/-- Two quotes stand for one, and a quote that has no other behind it is the end. -/
theorem scanVerbatim_literal (text : List Char) (hrest : rest.head? ≠ some '"') :
    scanVerbatim (text.flatMap Literal.doubled ++ '"' :: rest) =
      ⟨.ok text, text.flatMap Literal.doubled ++ ['"'], rest⟩ := by
  induction text with
  | nil =>
    rw [List.flatMap_nil, List.nil_append, scanVerbatim]
    · rfl
    · rintro further rfl
      exact hrest rfl
  | cons c text ih =>
    rw [List.flatMap_cons, List.append_assoc, Literal.doubled]
    by_cases hquote : c = '"'
    · subst hquote
      change scanVerbatim ('"' :: '"' :: (text.flatMap Literal.doubled ++ '"' :: rest)) = _
      rw [scanVerbatim, ih]
      rfl
    · rw [if_neg hquote, List.singleton_append, scanVerbatim_cons _ hquote, ih]
      rfl

theorem scan_literal (text : String) (rest : List Char) :
    scan '"' (text.toList.flatMap Literal.char ++ ['"'] ++ rest) =
      ⟨.string text, Literal.string text, rest⟩ := by
  have hscan (body : List Char) : scan '"' body = (scanString body).lexeme ['"'] := rfl
  rw [List.append_assoc, List.singleton_append, hscan, scanString_literal, Body.lexeme]
  dsimp only
  rw [String.ofList_toList]
  rfl

theorem scan_verbatim (text : String) (hrest : rest.head? ≠ some '"') :
    scan '@' ('"' :: (text.toList.flatMap Literal.doubled ++ ['"']) ++ rest) =
      ⟨.string text, Literal.verbatim text, rest⟩ := by
  have hscan (body : List Char) :
      scan '@' ('"' :: body) = (scanVerbatim body).lexeme ['@', '"'] := rfl
  rw [List.cons_append, List.append_assoc, List.singleton_append, hscan,
    scanVerbatim_literal _ hrest, Body.lexeme]
  dsimp only
  rw [String.ofList_toList]
  rfl

end Lexer

section Sources

variable {c : Char} {read : List Char} {kind : TokenKind}

/-- What the scanner cuts off the front of a source is its first token, and the others are those of
the text behind it, in their new place. -/
theorem tokenize_append_of_scan (following : String) (hblank : isBlank c = false) (hslash : c ≠ '/')
    (hscan : scan c (read ++ following.toList) = ⟨kind, c :: read, following.toList⟩) :
    tokenize (.ofList (c :: read) ++ following) =
      ⟨kind, ⟨0, width (c :: read)⟩⟩ ::
        (tokenize following).map (Token.mapSpan (.shift (width (c :: read)))) := by
  have htext : (String.ofList (c :: read) ++ following).toList =
      c :: (read ++ following.toList) := by
    rw [String.toList_append, String.toList_ofList, List.cons_append]
  have hgap : skipGap .blank (c :: (read ++ following.toList)) =
      ([], c :: (read ++ following.toList)) := by
    rw [skipGap_of_ne hslash, if_neg (by rw [hblank]; decide)]
  have hlength : width (c :: (read ++ following.toList)) =
      width following.toList + width (c :: read) := by
    rw [← List.cons_append, width_append, Nat.add_comm]
  have hbehind := tokensFrom_add 0 (width (c :: read)) following.toList
  rw [Nat.zero_add] at hbehind
  simp only [tokenize, Tokenized.finish, Tokenized.ofSource, htext, hlength,
    tokensFrom_of_token 0 hgap, hscan, width_nil, Nat.zero_add, Nat.add_zero, hbehind,
    List.map_append, List.cons_append, List.map_cons, List.map_nil, Token.mapSpan, Span.shift]

end Sources

/-- A text between quotes is the token of that text, from its first quote to its last, whatever
stands behind it; so is a text with its quotes doubled if no other quote stands behind it. What is
written between quotes holds no control characters. -/
theorem quoted_text_is_read_back (text following : String) :
    tokenize (.ofList (Literal.string text) ++ following) =
        ⟨.string text, ⟨0, width (Literal.string text)⟩⟩ ::
          (tokenize following).map (Token.mapSpan (.shift (width (Literal.string text)))) ∧
      (following.toList.head? ≠ some '"' →
        tokenize (.ofList (Literal.verbatim text) ++ following) =
          ⟨.string text, ⟨0, width (Literal.verbatim text)⟩⟩ ::
            (tokenize following).map (Token.mapSpan (.shift (width (Literal.verbatim text))))) ∧
      ∀ c ∈ Literal.string text, isControl c = false := by
  refine ⟨?_, fun hfollowing => ?_, isPlain_string text⟩
  · exact tokenize_append_of_scan following (by decide) (by decide) (scan_literal text _)
  · exact tokenize_append_of_scan following (by decide) (by decide) (scan_verbatim text hfollowing)

theorem quoted_text_is_read_back_quotes :
    "; 5".toList.head? ≠ some '"' ∧
      tokenize "@\"say \"\"hi\"\"\"; 5" = ⟨.string "say \"hi\"", ⟨0, 13⟩⟩ ::
        (tokenize "; 5").map (Token.mapSpan (.shift 13)) := by
  have hhead : "; 5".toList.head? ≠ some '"' := by decide
  exact ⟨hhead, (quoted_text_is_read_back "say \"hi\"" "; 5").2.1 hhead⟩

end MigrationScript
