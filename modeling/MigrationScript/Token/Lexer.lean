import MigrationScript.Token.Cover

/-!
# From source text to tokens

A text always has tokens: what is no token is one of its own that says why. It is left to the parser
to report it, if it gets as far.
-/

namespace MigrationScript

namespace Lexer

theorem length_rest_lt {text gap rest : List Char} {c : Char}
    (h : skipGap .blank text = (gap, c :: rest)) : (scan c rest).rest.length < text.length := by
  have hlexeme := congrArg List.length (scan_append c rest)
  have htext := congrArg List.length (skipGap_append .blank text)
  have hpos := List.length_pos_iff.2 (scan_text_ne_nil c rest)
  rw [h] at htext
  simp only [List.length_append, List.length_cons] at hlexeme htext
  omega

/-- The tokens of a text that starts at an offset of the source. -/
def tokensFrom (offset : Nat) (text : List Char) : List Token :=
  match _h : skipGap .blank text with
  | (_, []) => []
  | (gap, c :: rest) =>
    let lexeme := scan c rest
    let start := offset + width gap
    let stop := start + width lexeme.text
    ⟨lexeme.kind, ⟨start, stop⟩⟩ :: tokensFrom stop lexeme.rest
termination_by text.length
decreasing_by exact length_rest_lt _h

end Lexer

/-- The tokens of a source, without the end, and its length in bytes. -/
structure Tokenized where
  tokens : List Token
  length : Nat

def Tokenized.ofSource (source : String) : Tokenized :=
  ⟨Lexer.tokensFrom 0 source.toList, width source.toList⟩

def Tokenized.finish (source : Tokenized) : Token :=
  ⟨.endOfInput, ⟨source.length, source.length⟩⟩

def tokenize (source : String) : List Token :=
  let tokenized := Tokenized.ofSource source
  tokenized.tokens ++ [tokenized.finish]

end MigrationScript
