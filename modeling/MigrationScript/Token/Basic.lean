import MigrationScript.Double.Text
import MigrationScript.Span
import MigrationScript.Text.Quoted
import MigrationScript.Token.Keyword

namespace MigrationScript

inductive Punctuation
  | arrow
  | equals
  | minus
  | leftParen
  | rightParen
  | leftBrace
  | rightBrace
  | leftBracket
  | rightBracket
  | comma
  | semicolon
  | dot
  | colon
  deriving DecidableEq, Repr

def Punctuation.text : Punctuation → String
  | .arrow => "=>"
  | .equals => "="
  | .minus => "-"
  | .leftParen => "("
  | .rightParen => ")"
  | .leftBrace => "\x7b"
  | .rightBrace => "\x7d"
  | .leftBracket => "["
  | .rightBracket => "]"
  | .comma => ","
  | .semicolon => ";"
  | .dot => "."
  | .colon => ":"

inductive LexError
  | missingPower
  | longTooLarge
  | integerTooLarge
  | numberSuffix
  | unicodeEscape
  | unknownEscape (char : Char)
  | openString
  | openVerbatimString
  | loneAt
  | unexpected (char : Char)
  deriving DecidableEq

def LexError.message : LexError → String
  | .missingPower => "Missing exponent digits"
  | .longTooLarge => "Invalid long literal: number too large to fit in target type"
  | .integerTooLarge => "Invalid integer literal: number too large to fit in target type"
  | .numberSuffix => "Invalid numeric literal suffix"
  | .unicodeEscape => "Invalid unicode escape"
  | .unknownEscape char => s!"Unknown escape sequence: \\{char}"
  | .openString => "Unterminated string literal"
  | .openVerbatimString => "Unterminated verbatim string literal"
  | .loneAt => "Expected identifier or string after '@'"
  | .unexpected char => s!"Unexpected character: {char}"

inductive TokenKind
  | integer (value : Nat)
  | long (value : Nat)
  | double (value : Double)
  | string (value : String)
  | identifier (name : String)
  | keyword (word : Keyword)
  | punctuation (mark : Punctuation)
  | endOfInput
  | invalid (error : LexError)
  deriving DecidableEq

def TokenKind.text : TokenKind → String
  | .integer value => s!"integer {value}"
  | .long value => s!"long {value}L"
  | .double value => s!"double {value.text}"
  | .string value => s!"string {quoted value}"
  | .identifier name => s!"identifier '{name}'"
  | .keyword word => s!"'{word.text}'"
  | .punctuation mark => s!"'{mark.text}'"
  | .endOfInput => "end of input"
  | .invalid error => error.message

structure Token where
  kind : TokenKind
  span : Span
  deriving DecidableEq

end MigrationScript
