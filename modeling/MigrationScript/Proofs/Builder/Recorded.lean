import MigrationScript.Proofs.Builder.Declared
import MigrationScript.Proofs.Builder.Parts

namespace MigrationScript

/-- A call on the recorder with what is called on what it gives back: setters of the operation, or
what declares the parts of a table. -/
inductive RecorderCall
  | enter (entry : Entry) (setters : List Setter)
  | declare (name : String) (calls : List (TableCall ColumnHandle))

namespace RecorderCall

/-- The call as its entry and the changes that follow it. -/
def run : RecorderCall → BuilderCall
  | .enter entry setters => ⟨entry, setters.map .set⟩
  | .declare name calls => ⟨.createTable name, (calls.flatMap (·.steps)).map .declare⟩

/-- The operation that the call and its setters describe, or the table that it declares. -/
def recorded : RecorderCall → Operation
  | .enter entry setters => entry.recorded setters
  | .declare name calls => .createTable (.ofCalls name (calls.map (·.named)))

/-- All that is called on the operation leads to the one that is described. -/
theorem operation_run (call : RecorderCall) : call.run.operation = call.recorded := by
  cases call with
  | enter entry setters => exact List.foldl_map.trans (entry.foldl_set setters)
  | declare name calls =>
    have hsteps (steps : List TableStep) :
        (steps.map Change.declare).filterMap (·.tableStep?) = steps := by
      rw [List.filterMap_map]
      exact List.filterMap_some
    apply (foldl_apply_createTable _ { name }).trans
    rw [run, recorded, hsteps, Table.foldl_calls]

end RecorderCall

/-- Part of a call changes nothing in front of its own operation. -/
theorem recordSteps_take (recorded : List Operation) (call : BuilderCall) (made : Nat) :
    ∃ current : Operation, current.kind = call.entry.operation.kind ∧
      recordSteps recorded (call.recordings.take (made + 1)) = recorded ++ [current] := by
  refine ⟨(call.changes.take made).foldl Change.apply call.entry.operation,
    kind_foldl_apply _ _, ?_⟩
  rw [BuilderCall.recordings, List.take_succ_cons, ← List.map_take]
  exact recordSteps_changes recorded _ _

theorem recordSteps_runs (recorded : List Operation) (calls : List RecorderCall) :
    recordSteps recorded (calls.flatMap (·.run.recordings)) =
      recorded ++ calls.map (·.recorded) := by
  have hrun := recordSteps_calls recorded (calls.map (·.run))
  rw [List.flatMap_map, List.map_map] at hrun
  rw [hrun]
  congr 1
  apply List.map_congr_left
  intro call _
  exact call.operation_run

/-- A run of calls records one operation for each call, in their order. The operation is what its
call alone describes: what the entry gives, and in each optional field what the last setter of the
field gives or the default. At no moment of a call is there a change in front of its operation. In a
call two neighbouring setters of different fields can change places. -/
theorem records_exactly_its_calls (recorded : List Operation) (calls : List RecorderCall) :
    recordSteps recorded (calls.flatMap (·.run.recordings)) =
      recorded ++ calls.map (·.recorded) ∧
    (∀ (call : RecorderCall) (made : Nat), ∃ current : Operation,
      current.kind = call.run.entry.operation.kind ∧
        recordSteps recorded
            (calls.flatMap (·.run.recordings) ++ call.run.recordings.take (made + 1)) =
          recorded ++ calls.map (·.recorded) ++ [current]) ∧
    ∀ (entry : Entry) (front back : List Setter) (first second : Setter),
      first.field ≠ second.field →
        recordSteps recorded
            (RecorderCall.enter entry (front ++ first :: second :: back)).run.recordings =
          recordSteps recorded
            (RecorderCall.enter entry (front ++ second :: first :: back)).run.recordings := by
  have hcall (call : RecorderCall) :
      recordSteps recorded call.run.recordings = recorded ++ [call.recorded] := by
    simpa using recordSteps_runs recorded [call]
  refine ⟨recordSteps_runs recorded calls, ?_, ?_⟩
  · intro call made
    obtain ⟨current, hkind, hcurrent⟩ :=
      recordSteps_take (recorded ++ calls.map (·.recorded)) call.run made
    refine ⟨current, hkind, ?_⟩
    rw [recordSteps, List.foldl_append, ← recordSteps, ← recordSteps, recordSteps_runs]
    exact hcurrent
  · intro entry front back first second hfields
    rw [hcall, hcall]
    congr 2
    apply entry.recorded_congr
    intro field
    exact lastSet_swap hfields front back

/-- A default value and a default expression do not clear each other, in whichever order they are
set. -/
theorem records_exactly_its_calls_defaults :
    let entry := Entry.addColumn "age" "users" "integer"
    let value := Setter.column (.defaultValue (.int 18))
    let expression := Setter.column (.defaultExpression "18")
    let column : Column :=
      { name := "age", table := "users", type := "integer"
        defaultValue := some (.int 18), defaultExpression := some "18" }
    value.field ≠ expression.field ∧
      recordSteps [] (RecorderCall.enter entry [value, expression]).run.recordings =
        [.addColumn column] ∧
      recordSteps [] (RecorderCall.enter entry [expression, value]).run.recordings =
        [.addColumn column] := by
  intro entry value expression column
  have hfields : value.field ≠ expression.field := by decide
  obtain ⟨hcalls, -, hswap⟩ := records_exactly_its_calls [] [.enter entry [value, expression]]
  exact ⟨hfields, hcalls, (hswap entry [] [] value expression hfields).symm.trans hcalls⟩

end MigrationScript
