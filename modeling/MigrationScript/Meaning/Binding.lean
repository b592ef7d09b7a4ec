import MigrationScript.Meaning.Error
import MigrationScript.Meaning.Parameter
import MigrationScript.Tree.Basic

/-!
# Binding arguments

Positional arguments fill the parameters in order, and the named ones behind them go to the
parameter of their name. A parameter is taken by `null` as by any other value, but it has no value
then.
-/

namespace MigrationScript

/-- A call and the values that its arguments give to parameters, under their names. -/
structure Bound where
  call : Call
  given : List (String × Expr)

namespace Bound

/-- Adds named arguments to the values given so far. -/
def addNamed (method : String) (parameters : List Parameter) (given : List (String × Expr)) :
    List Argument → Except ScriptError (List (String × Expr))
  | [] => .ok given
  | argument :: rest =>
    match argument.name with
    | none => .error ⟨.positionalAfterNamed method, argument.span⟩
    | some name =>
      if !parameters.any (·.name == name) then
        .error ⟨.unknownArgument method name, argument.span⟩
      else if given.any (·.1 == name) then
        .error ⟨.duplicateArgument method name, argument.span⟩
      else addNamed method parameters (given ++ [(name, argument.value)]) rest

/-- Gives positional arguments to the parameters that are left, and then adds the named ones. -/
def add (method : String) (parameters : List Parameter) (given : List (String × Expr)) :
    List Parameter → List Argument → Except ScriptError (List (String × Expr))
  | _, [] => .ok given
  | left, argument :: rest =>
    match argument.name, left with
    | some _, _ => addNamed method parameters given (argument :: rest)
    | none, [] => .error ⟨.tooManyArguments method, argument.span⟩
    | none, parameter :: left =>
      add method parameters (given ++ [(parameter.name, argument.value)]) left rest

def value? (bound : Bound) (name : String) : Option Expr :=
  match bound.given.lookup name with
  | some (.constant .null _) => none
  | given => given

def missing (bound : Bound) (name : String) : ScriptError :=
  ⟨.missingArgument bound.call.method name, bound.call.span⟩

/-- Binds the arguments of a call; each required parameter has to get a value. -/
def ofCall (call : Call) (parameters : List Parameter) : Except ScriptError Bound := do
  let given ← add call.method parameters [] parameters call.arguments
  let bound : Bound := ⟨call, given⟩
  match parameters.find? fun parameter =>
      parameter.isRequired && (bound.value? parameter.name).isNone with
  | some parameter => .error (bound.missing parameter.name)
  | none => .ok bound

/-- At most one of two parameters has a value. -/
def exclusive (bound : Bound) (first second : String) : Except ScriptError Unit :=
  if (bound.value? first).isSome && (bound.value? second).isSome then
    .error ⟨.conflictingArguments bound.call.method first second, bound.call.span⟩
  else .ok ()

end Bound

end MigrationScript
