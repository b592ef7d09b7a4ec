import MigrationScript.Token.Basic

namespace MigrationScript

inductive Expectation
  | mark (sign : Punctuation)
  | identifier
  | expression
  | number
  | arrayOrObject
  deriving DecidableEq

def Expectation.text : Expectation → String
  | .mark sign => s!"'{sign.text}'"
  | .identifier => "identifier"
  | .expression => "expression"
  | .number => "number"
  | .arrayOrObject => "'[' or '\x7b'"

inductive ParseCause
  | lexical (error : LexError)
  | unexpected (expected : Expectation) (found : TokenKind)
  | callForm
  deriving DecidableEq

/-- Why the script cannot be read on, and the bytes at fault. -/
structure ParseError where
  cause : ParseCause
  span : Span
  deriving DecidableEq

namespace ParseError

/-- A token stands where something else was expected. Text that is no token is itself at fault. -/
def unexpected (expected : Expectation) (found : Token) : ParseError :=
  match found.kind with
  | .invalid error => ⟨.lexical error, found.span⟩
  | kind => ⟨.unexpected expected kind, found.span⟩

def expected? (error : ParseError) : Option Expectation :=
  match error.cause with
  | .unexpected expected _ => some expected
  | _ => none

def found? (error : ParseError) : Option TokenKind :=
  match error.cause with
  | .unexpected _ found => some found
  | _ => none

def text (error : ParseError) : String :=
  match error.cause with
  | .lexical error => error.message
  | .unexpected expected .endOfInput => s!"Unexpected end of input: expected {expected.text}"
  | .unexpected expected found => s!"Unexpected token: expected {expected.text}, found {found.text}"
  | .callForm => "Calls must have the form target.Method(...)"

def message (error : ParseError) : String :=
  s!"{error.text} at position {error.span.text}"

end ParseError

end MigrationScript
