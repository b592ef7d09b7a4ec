import MigrationScript.Meaning.Run
import MigrationScript.Operation.Same
import MigrationScript.Operation.Summary
import MigrationScript.Script.Generate

namespace MigrationScript

inductive RoundTripError
  | generate (cause : GenerateError)
  | reconstruct (cause : ScriptError)
  | lengthMismatch (expected actual : Nat)
  | mismatch (index : Nat) (expected actual : Operation)
  deriving DecidableEq

def RoundTripError.message : RoundTripError → String
  | .generate cause => s!"Generation failed: {cause.message}"
  | .reconstruct cause => s!"Reconstruction failed: {cause.message}"
  | .lengthMismatch expected actual => s!"Expected {expected} operations, reconstructed {actual}"
  | .mismatch index expected actual =>
    s!"Operation {index} differs after round trip: " ++
      s!"expected {expected.summary}, got {actual.summary}"

/-- The first place where two lists differ, and what stands there. -/
def firstDifference (index : Nat) :
    List Operation → List Operation → Option (Nat × Operation × Operation)
  | expected :: expecteds, actual :: actuals =>
    if expected.same actual then firstDifference (index + 1) expecteds actuals
    else some (index, expected, actual)
  | _, _ => none

/-- The script of operations, if it means them. -/
def verify (layout : Layout) (builder : String) (operations : List Operation) :
    Except RoundTripError String :=
  match generate layout builder operations with
  | .error error => .error (.generate error)
  | .ok text =>
    match reconstruct builder text with
    | .error error => .error (.reconstruct error)
    | .ok read =>
      if read.length ≠ operations.length then
        .error (.lengthMismatch operations.length read.length)
      else
        match firstDifference 0 operations read with
        | some (index, expected, actual) => .error (.mismatch index expected actual)
        | none => .ok text

end MigrationScript
