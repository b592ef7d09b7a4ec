import MigrationScript.Tree.Basic
import MigrationScript.Tree.Cursor

/-!
# From tokens to trees

Expressions hold expressions; each of these readers takes the reader of the expressions inside as an
argument, and `expression` closes the circle up to a depth. The tokens that are left bound the depth
that can be needed.
-/

namespace MigrationScript

namespace Parser

def pathTail : Nat → Parser (List String)
  | 0 => return []
  | fuel + 1 => do
    if ← skip .dot then
      let segment ← identifier
      return segment :: (← pathTail fuel)
    else return []

def path : Parser (List String) := do
  let first ← identifier
  return first :: (← pathTail (← fuel))

/-- A name in front of a mark, read together with the mark if both are there. -/
def label (mark : Punctuation) : Parser (Option String) := do
  match (← get).current.kind, (← get).ahead.kind == .punctuation mark with
  | .identifier name, true =>
    advance
    advance
    return some name
  | _, _ => return none

def argument (expression : Parser Expr) : Parser Argument := do
  let start := (← get).current.span
  let name ← label .colon
  let value ← expression
  return ⟨name, value, start.merge value.span⟩

/-- The arguments of a call whose target and method are read. -/
def callBehind (expression : Parser Expr) (target method : String) (start : Span) :
    Parser Call := do
  expect .leftParen
  let arguments ←
    if (← get).isAt .rightParen then pure [] else separated (argument expression) (← fuel)
  expect .rightParen
  return ⟨target, method, arguments, ← spanFrom start⟩

def call (expression : Parser Expr) : Parser Call := do
  let start := (← get).current.span
  let target ← identifier
  expect .dot
  let method ← identifier
  callBehind expression target method start

def statement (expression : Parser Expr) : Parser Call := do
  let made ← call expression
  expect .semicolon
  return made

def member (expression : Parser Expr) : Parser Member := do
  let start := (← get).current.span
  match ← label .equals with
  | some name =>
    let value ← expression
    return .named name value (start.merge value.span)
  | none =>
    let segments ← path
    return .path segments (← spanFrom start)

def number (negative : Bool) : Parser Constant := do
  let value ←
    match (← get).current.kind with
    | .integer value => pure (.integer (if negative then -value else value) false)
    | .long value => pure (.integer (if negative then -value else value) true)
    | .double value => pure (.double (if negative then value.negate else value))
    | _ => expected .number
  advance
  return value

def newValue (expression : Parser Expr) (start : Span) : Parser Expr := do
  if ← skip .leftBracket then
    expect .rightBracket
    expect .leftBrace
    let items ← listed expression (← fuel)
    expect .rightBrace
    return .array items (← spanFrom start)
  else if ← skip .leftBrace then
    let members ← listed (member expression) (← fuel)
    expect .rightBrace
    return .object members (← spanFrom start)
  else expected .arrayOrObject

def functionBehind (expression : Parser Expr) (parameter : String) (start : Span) :
    Parser Expr := do
  if ← skip .leftBrace then
    let statements ← blockOf (statement expression) (← fuel)
    expect .rightBrace
    return .block parameter statements (← spanFrom start)
  else
    let body ← expression
    return .function parameter body (← spanFrom start)

/-- A path or, with arguments behind it, a call. -/
def pathOrCall (expression : Parser Expr) (start : Span) : Parser Expr := do
  let segments ← path
  if (← get).isAt .leftParen then
    match segments with
    | [target, method] => return .call (← callBehind expression target method start)
    | _ => throw ⟨.callForm, ← spanFrom start⟩
  else return .path segments (← spanFrom start)

def literal (value : Constant) (start : Span) : Parser Expr := do
  advance
  return .constant value (← spanFrom start)

def expression : Nat → Parser Expr
  | 0 => expected .expression
  | depth + 1 => do
    let start := (← get).current.span
    match (← get).current.kind with
    | .string value => literal (.string value) start
    | .integer _ | .long _ | .double _ => return .constant (← number false) (← spanFrom start)
    | .punctuation .minus =>
      advance
      return .constant (← number true) (← spanFrom start)
    | .keyword .true => literal (.bool true) start
    | .keyword .false => literal (.bool false) start
    | .keyword .null => literal .null start
    | .keyword .new =>
      advance
      newValue (expression depth) start
    | .identifier _ =>
      match ← label .arrow with
      | some parameter => functionBehind (expression depth) parameter start
      | none => pathOrCall (expression depth) start
    | _ => expected .expression

def nextStatement : Parser Call := do
  statement (expression (← fuel))

def program : Parser (List Call) := do
  untilEnd nextStatement (← fuel)

end Parser

/-- The statements of a source, or why it is no script. -/
def parse (source : String) : Except ParseError (List Call) :=
  match Parser.program (.ofSource source) with
  | .ok statements _ => .ok statements
  | .error error _ => .error error

/-- Reads statements one after the other from one place on, also behind one that cannot be read. -/
def parseSome : Nat → Cursor → List (Except ParseError Call)
  | 0, _ => []
  | count + 1, cursor =>
    match Parser.nextStatement cursor with
    | .ok statement cursor => .ok statement :: parseSome count cursor
    | .error error cursor => .error error :: parseSome count cursor

end MigrationScript
