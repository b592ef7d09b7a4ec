import MigrationScript.Operation.Fault
import MigrationScript.Script.Table

namespace MigrationScript

inductive GenerateError
  | refused
  | invalidBuilderName (name : String)
  | fault (cause : Fault)
  deriving DecidableEq

def GenerateError.message : GenerateError → String
  | .refused =>
    "Failed to write generated code: an error occurred when formatting an argument"
  | .invalidBuilderName name => s!"Invalid builder name '{name}'"
  | .fault cause => cause.message

def Operation.steps (builder : String) (operation : Operation) : List Step :=
  match operation with
  | .createTable table => table.steps builder
  | operation => callSteps builder operation.kind.shape operation.writtenArguments

/-- The text of operations, whether or not they have faults. -/
def render (layout : Layout) (builder : String) (operations : List Operation) : List Char :=
  (Writer.run {} (operations.flatMap (·.steps builder))).text layout

def generateError? (builder : String) (operations : List Operation) : Option GenerateError :=
  if Identifier.isValid builder then (fault? operations).map .fault
  else some (.invalidBuilderName builder)

def generate (layout : Layout) (builder : String) (operations : List Operation) :
    Except GenerateError String :=
  match generateError? builder operations with
  | some error => .error error
  | none => .ok (.ofList (render layout builder operations))

/-- A sink takes a text or refuses it. The result is what it has taken. -/
def generateTo (accepts : String → Bool) (layout : Layout) (builder : String)
    (operations : List Operation) : Except GenerateError String :=
  match generate layout builder operations with
  | .error error => .error error
  | .ok text => if accepts text then .ok text else .error .refused

end MigrationScript
