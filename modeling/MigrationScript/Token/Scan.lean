import MigrationScript.Decimal
import MigrationScript.Identifier
import MigrationScript.Text.Blank
import MigrationScript.Text.Hex
import MigrationScript.Text.Integer
import MigrationScript.Token.Basic

namespace MigrationScript

namespace Lexer

/-- Where between two tokens the text is. -/
inductive Gap
  | blank
  | line
  | block

/-- Cuts off the white space and the comments in front of a token. A line comment ends with its
line; a block comment ends with its first end mark and may stay open at the end of the text. -/
def skipGap : Gap → List Char → List Char × List Char
  | .blank, '/' :: '/' :: rest =>
    let (gap, rest) := skipGap .line rest
    ('/' :: '/' :: gap, rest)
  | .blank, '/' :: '*' :: rest =>
    let (gap, rest) := skipGap .block rest
    ('/' :: '*' :: gap, rest)
  | .blank, c :: rest =>
    if isBlank c then
      let (gap, rest) := skipGap .blank rest
      (c :: gap, rest)
    else ([], c :: rest)
  | .line, c :: rest =>
    let (gap, rest) := skipGap (if c = '\n' then .blank else .line) rest
    (c :: gap, rest)
  | .block, '*' :: '/' :: rest =>
    let (gap, rest) := skipGap .blank rest
    ('*' :: '/' :: gap, rest)
  | .block, c :: rest =>
    let (gap, rest) := skipGap .block rest
    (c :: gap, rest)
  | _, [] => ([], [])

/-- A token cut off the front of a text: its kind, its text and the text behind it. -/
structure Lexeme where
  kind : TokenKind
  text : List Char
  rest : List Char

/-- The text of a string literal behind its opening mark: what it denotes or why it denotes nothing,
the text read, and the text behind it. -/
structure Body where
  value : Except LexError (List Char)
  text : List Char
  rest : List Char

def Body.cons (char : Char) (text : List Char) (body : Body) : Body where
  value := body.value.map (char :: ·)
  text := text ++ body.text
  rest := body.rest

def escaped? (c : Char) : Option Char :=
  match c with
  | '"' => some '"'
  | '\\' => some '\\'
  | 'n' => some '\n'
  | 'r' => some '\r'
  | 't' => some '\t'
  | '0' => some '\x00'
  | _ => none

/-- A code point that is cut short or denotes no character. -/
def badCodePoint (rest : List Char) : Body :=
  let digits := ((rest.take 4).takeWhile isHexDigit).length
  ⟨.error .unicodeEscape, '\\' :: 'u' :: rest.take digits, rest.drop digits⟩

/-- A string behind its opening quote, with escapes after a backslash; it ends on its line. -/
def scanString : List Char → Body
  | [] => ⟨.error .openString, [], []⟩
  | '"' :: rest => ⟨.ok [], ['"'], rest⟩
  | '\n' :: rest => ⟨.error .openString, ['\n'], rest⟩
  | ['\\'] => ⟨.error .openString, ['\\'], []⟩
  | '\\' :: 'u' :: a :: b :: c :: d :: rest =>
    match (hexValue4? a b c d).bind scalar? with
    | some char => (scanString rest).cons char ['\\', 'u', a, b, c, d]
    | none => badCodePoint (a :: b :: c :: d :: rest)
  | '\\' :: 'u' :: rest => badCodePoint rest
  | '\\' :: c :: rest =>
    match escaped? c with
    | some char => (scanString rest).cons char ['\\', c]
    | none => ⟨.error (.unknownEscape c), ['\\', c], rest⟩
  | c :: rest => (scanString rest).cons c [c]

/-- A string in which only a quote is special, behind its opening quote: two stand for one. -/
def scanVerbatim : List Char → Body
  | [] => ⟨.error .openVerbatimString, [], []⟩
  | '"' :: '"' :: rest => (scanVerbatim rest).cons '"' ['"', '"']
  | '"' :: rest => ⟨.ok [], ['"'], rest⟩
  | c :: rest => (scanVerbatim rest).cons c [c]

def Body.lexeme (mark : List Char) (body : Body) : Lexeme where
  kind :=
    match body.value with
    | .ok value => .string (.ofList value)
    | .error error => .invalid error
  text := mark ++ body.text
  rest := body.rest

/-- An identifier or, unless a mark in front says that it is a name, a keyword. -/
def scanWord (mark text : List Char) : Lexeme where
  kind :=
    let name := String.ofList (text.takeWhile isIdentifierPart)
    match mark, Keyword.ofText? name with
    | [], some word => .keyword word
    | _, _ => .identifier name
  text := mark ++ text.takeWhile isIdentifierPart
  rest := text.dropWhile isIdentifierPart

/-- The digits behind a point, and the text behind them; no digits if there is no point with a digit
behind it. -/
def scanFraction : List Char → List Char × List Char
  | '.' :: c :: rest =>
    if isDecimalDigit c then
      ((c :: rest).takeWhile isDecimalDigit, (c :: rest).dropWhile isDecimalDigit)
    else ([], '.' :: c :: rest)
  | text => ([], text)

/-- The power of ten of a number: its text and its value, if it has digits. -/
structure Power where
  text : List Char
  value : Option Int
  rest : List Char

def scanSign : List Char → List Char × List Char
  | '+' :: rest => (['+'], rest)
  | '-' :: rest => (['-'], rest)
  | text => ([], text)

/-- The power of ten at the front of a text, if there is its mark. -/
def scanPower : List Char → Option Power
  | [] => none
  | c :: rest =>
    if c = 'e' ∨ c = 'E' then
      let (sign, rest) := scanSign rest
      let digits := rest.takeWhile isDecimalDigit
      let value : Int := Nat.ofDigitChars 10 digits 0
      some {
        text := c :: sign ++ digits
        value :=
          if digits.isEmpty then none else some (if sign = ['-'] then -value else value)
        rest := rest.dropWhile isDecimalDigit }
    else none

/-- A number without its suffix. -/
structure Numeral where
  text : List Char
  value : Decimal
  isDouble : Bool
  rest : List Char

def Numeral.double (numeral : Numeral) : TokenKind :=
  .double (.ofDecimal false numeral.value)

/-- The value of a number without a point and a power, if it fits 64 bits. -/
def Numeral.word? (numeral : Numeral) : Option Nat :=
  if numeral.value.significand < UInt64.size then some numeral.value.significand else none

def Numeral.integer (numeral : Numeral) : TokenKind :=
  match numeral.word? with
  | some value => .integer value
  | none => .invalid .integerTooLarge

def Numeral.long (numeral : Numeral) : TokenKind :=
  match numeral.word? with
  | some value => .long value
  | none => .invalid .longTooLarge

/-- A number that nothing may be joined to. -/
def Numeral.closed (numeral : Numeral) (kind : TokenKind) : Lexeme :=
  match numeral.rest with
  | c :: rest =>
    if isIdentifierPart c then ⟨.invalid .numberSuffix, numeral.text ++ [c], rest⟩
    else ⟨kind, numeral.text, c :: rest⟩
  | [] => ⟨kind, numeral.text, []⟩

def Numeral.lexeme (numeral : Numeral) : Lexeme :=
  match numeral.rest with
  | c :: rest =>
    if !numeral.isDouble && (c == 'L' || c == 'l') then
      ⟨numeral.long, numeral.text ++ [c], rest⟩
    else if c == 'D' || c == 'd' then
      Numeral.closed { numeral with text := numeral.text ++ [c], rest } numeral.double
    else numeral.closed (if numeral.isDouble then numeral.double else numeral.integer)
  | [] => numeral.closed (if numeral.isDouble then numeral.double else numeral.integer)

/-- A number: digits, perhaps a point and digits, perhaps a power of ten, perhaps a suffix. -/
def scanNumber (text : List Char) : Lexeme :=
  let whole := text.takeWhile isDecimalDigit
  let (fraction, rest) := scanFraction (text.dropWhile isDecimalDigit)
  let front := if fraction.isEmpty then whole else whole ++ '.' :: fraction
  match scanPower rest with
  | none => Numeral.lexeme ⟨front, .ofDigits whole fraction 0, !fraction.isEmpty, rest⟩
  | some power =>
    match power.value with
    | none => ⟨.invalid .missingPower, front ++ power.text, power.rest⟩
    | some value =>
      Numeral.lexeme ⟨front ++ power.text, .ofDigits whole fraction value, true, power.rest⟩

def punctuation? (c : Char) : Option Punctuation :=
  match c with
  | '(' => some .leftParen
  | ')' => some .rightParen
  | '\x7b' => some .leftBrace
  | '\x7d' => some .rightBrace
  | '[' => some .leftBracket
  | ']' => some .rightBracket
  | ',' => some .comma
  | ';' => some .semicolon
  | '.' => some .dot
  | ':' => some .colon
  | '-' => some .minus
  | '=' => some .equals
  | _ => none

def scanMark (c : Char) (rest : List Char) : Lexeme :=
  match c, rest with
  | '=', '>' :: rest => ⟨.punctuation .arrow, ['=', '>'], rest⟩
  | c, rest =>
    match punctuation? c with
    | some mark => ⟨.punctuation mark, [c], rest⟩
    | none => ⟨.invalid (.unexpected c), [c], rest⟩

def scanAt (rest : List Char) : Lexeme :=
  match rest with
  | '"' :: rest => (scanVerbatim rest).lexeme ['@', '"']
  | c :: rest =>
    if isIdentifierStart c then scanWord ['@'] (c :: rest)
    else ⟨.invalid .loneAt, ['@'], c :: rest⟩
  | [] => ⟨.invalid .loneAt, ['@'], []⟩

/-- The token at the front of a text that starts with the given character. -/
def scan (c : Char) (rest : List Char) : Lexeme :=
  if c = '"' then (scanString rest).lexeme ['"']
  else if c = '@' then scanAt rest
  else if isDecimalDigit c then scanNumber (c :: rest)
  else if isIdentifierStart c then scanWord [] (c :: rest)
  else scanMark c rest

end Lexer

end MigrationScript
