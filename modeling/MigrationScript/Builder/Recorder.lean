import MigrationScript.Builder.Entry
import MigrationScript.Builder.Table

/-!
# Recording operations

The recorder holds nothing but the operations. A setter changes the operation that was appended
last, so no earlier one can be reached again.
-/

namespace MigrationScript

inductive Recording
  | entry (entry : Entry)
  | set (setter : Setter)
  | declare (step : TableStep)

/-- A step of a declaration, if the operation is a table. -/
def Operation.declare (operation : Operation) (step : TableStep) : Operation :=
  match operation with
  | .createTable table => .createTable (table.step step)
  | operation => operation

def recordStep (recorded : List Operation) : Recording → List Operation
  | .entry entry => recorded ++ [entry.operation]
  | .set setter => modifyLast (·.set setter) recorded
  | .declare step => modifyLast (·.declare step) recorded

def recordSteps (recorded : List Operation) (steps : List Recording) : List Operation :=
  steps.foldl recordStep recorded

end MigrationScript
