import MigrationScript.Token.Lexer
import MigrationScript.Tree.Error

namespace MigrationScript

/-- The tokens still to be read, the end behind them, and the bytes of the token read last. -/
structure Cursor where
  rest : List Token
  finish : Token
  previous : Span

namespace Cursor

def ofSource (source : String) : Cursor :=
  let tokenized := Tokenized.ofSource source
  ⟨tokenized.tokens, tokenized.finish, ⟨0, 0⟩⟩

def current (cursor : Cursor) : Token :=
  cursor.rest.headD cursor.finish

def ahead (cursor : Cursor) : Token :=
  cursor.rest.tail.headD cursor.finish

/-- The place behind the current token; nothing lies behind the end. -/
def advance (cursor : Cursor) : Cursor :=
  match cursor.rest with
  | [] => cursor
  | token :: rest => { cursor with rest, previous := token.span }

def isAt (cursor : Cursor) (mark : Punctuation) : Bool :=
  cursor.current.kind == .punctuation mark

/-- The bytes from the start of a token up to the token read last. -/
def spanFrom (cursor : Cursor) (start : Span) : Span :=
  start.merge cursor.previous

end Cursor

/-- A reader of tokens. Also where it fails, it leaves the place that it has reached. -/
abbrev Parser := EStateM ParseError Cursor

namespace Parser

def expected {α : Type} (expectation : Expectation) : Parser α := do
  throw (.unexpected expectation (← get).current)

def advance : Parser Unit :=
  modify Cursor.advance

def expect (mark : Punctuation) : Parser Unit := do
  if (← get).isAt mark then advance else expected (.mark mark)

def skip (mark : Punctuation) : Parser Bool := do
  if (← get).isAt mark then
    advance
    return true
  else return false

def identifier : Parser String := do
  match (← get).current.kind with
  | .identifier name =>
    advance
    return name
  | _ => expected .identifier

/-- The bytes from the start of a token up to the token read last. -/
def spanFrom (start : Span) : Parser Span :=
  return (← get).spanFrom start

/-- Items with commas between them. Every item takes a token, so that the number of tokens bounds
the number of items. -/
def separated {α : Type} (item : Parser α) : Nat → Parser (List α)
  | 0 => return []
  | fuel + 1 => do
    let first ← item
    if ← skip .comma then return first :: (← separated item fuel) else return [first]

/-- Items with commas between them, and perhaps one behind the last, up to a closing brace. -/
def listed {α : Type} (item : Parser α) : Nat → Parser (List α)
  | 0 => return []
  | fuel + 1 => do
    if (← get).isAt .rightBrace then return []
    let first ← item
    if ← skip .comma then return first :: (← listed item fuel) else return [first]

def blockOf {α : Type} (item : Parser α) : Nat → Parser (List α)
  | 0 => return []
  | fuel + 1 => do
    if (← get).isAt .rightBrace then return []
    if (← get).rest.isEmpty then expected (.mark .rightBrace)
    let first ← item
    return first :: (← blockOf item fuel)

def untilEnd {α : Type} (item : Parser α) : Nat → Parser (List α)
  | 0 => return []
  | fuel + 1 => do
    if (← get).rest.isEmpty then return []
    let first ← item
    return first :: (← untilEnd item fuel)

/-- A bound on what can still be read. -/
def fuel : Parser Nat :=
  return (← get).rest.length + 1

end Parser

end MigrationScript
