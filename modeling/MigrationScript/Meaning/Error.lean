import MigrationScript.Tree.Error

namespace MigrationScript

inductive Wanted
  | string
  | bool
  | int
  | long
  | defaultValue
  | referentialAction
  | stringArray
  | function
  | columnObject
  | namedColumn
  | columnDeclaration
  | statementBlock
  | columnSelector
  deriving DecidableEq

def Wanted.text : Wanted → String
  | .string => "a string"
  | .bool => "a bool"
  | .int => "an int"
  | .long => "a long"
  | .defaultValue => "a default value"
  | .referentialAction => "a ReferentialAction"
  | .stringArray => "a string array"
  | .function => "a lambda"
  | .columnObject => "a column object"
  | .namedColumn => "a named column"
  | .columnDeclaration => "a column declaration"
  | .statementBlock => "a statement block"
  | .columnSelector => "a column selector"

inductive IntegerWidth
  | int
  | long
  deriving DecidableEq

def IntegerWidth.text : IntegerWidth → String
  | .int => "int"
  | .long => "long"

inductive ScriptCause
  | parse (cause : ParseCause)
  | unknownTarget (expected found : String)
  | unknownMethod (method : String)
  | unknownArgument (method argument : String)
  | duplicateArgument (method argument : String)
  | missingArgument (method argument : String)
  | tooManyArguments (method : String)
  | positionalAfterNamed (method : String)
  | typeMismatch (argument : String) (wanted : Wanted)
  | outOfRange (argument : String) (width : IntegerWidth)
  | conflictingArguments (method first second : String)
  | unknownColumn (identifier : String)
  | duplicateColumn (identifier : String)
  | duplicatePrimaryKey (table : String)
  | unknownReferentialAction (name : String)
  deriving DecidableEq

/-- Why a script cannot be run on, and the bytes at fault. -/
structure ScriptError where
  cause : ScriptCause
  span : Span
  deriving DecidableEq

namespace ScriptError

def ofParseError (error : ParseError) : ScriptError :=
  ⟨.parse error.cause, error.span⟩

def message (error : ScriptError) : String :=
  let place := error.span.text
  match error.cause with
  | .parse cause => (ParseError.mk cause error.span).message
  | .unknownTarget expected found => s!"Unknown target '{found}' at {place}: expected '{expected}'"
  | .unknownMethod method => s!"Unknown method '{method}' at {place}"
  | .unknownArgument method argument => s!"{method} has no parameter '{argument}' (at {place})"
  | .duplicateArgument method argument =>
    s!"{method}: parameter '{argument}' is given more than once (at {place})"
  | .missingArgument method argument =>
    s!"{method}: missing required argument '{argument}' (at {place})"
  | .tooManyArguments method => s!"{method}: too many arguments (at {place})"
  | .positionalAfterNamed method =>
    s!"{method}: positional argument after named arguments (at {place})"
  | .typeMismatch argument wanted =>
    s!"Argument '{argument}' expects {wanted.text} (at {place})"
  | .outOfRange argument width =>
    s!"Argument '{argument}' is out of range for {width.text} (at {place})"
  | .conflictingArguments method first second =>
    s!"{method}: '{first}' and '{second}' cannot both be given (at {place})"
  | .unknownColumn identifier => s!"Unknown column identifier '{identifier}' at {place}"
  | .duplicateColumn identifier =>
    s!"Column identifier '{identifier}' is declared twice (at {place})"
  | .duplicatePrimaryKey table =>
    s!"Table '{table}' declares more than one primary key (at {place})"
  | .unknownReferentialAction name => s!"Unknown referential action '{name}' at {place}"

end ScriptError

end MigrationScript
