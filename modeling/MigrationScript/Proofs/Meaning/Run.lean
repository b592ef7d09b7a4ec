import Mathlib.Data.List.Forall2
import MigrationScript.Proofs.Meaning.Record

namespace MigrationScript

namespace Call

variable {builder : String} {statement : Call} {operation : Operation} {error : ScriptError}

/-- The statement appends the operation, whatever is recorded before. -/
structure Appends (builder : String) (statement : Call) (operation : Operation) : Prop where
  execute_eq : ∀ recorded, statement.execute builder recorded = .ok () (recorded ++ [operation])
  method_eq : operation.kind.method = statement.method

/-- The statement fails and leaves what is recorded. -/
def FailsWith (builder : String) (statement : Call) (error : ScriptError) : Prop :=
  ∀ recorded, statement.execute builder recorded = .error error recorded

theorem kind_toOperation {bound : Bound} {kind : Kind}
    (h : bound.toOperation kind = .ok operation) : operation.kind = kind := by
  obtain ⟨schema, _, h⟩ := except_bind_eq_ok.mp h
  cases kind <;>
    · obtain ⟨_, _, h⟩ := except_bind_eq_ok.mp h
      cases h
      rfl

theorem method_kind_operation (h : statement.operation builder = .ok operation) :
    operation.kind.method = statement.method := by
  obtain ⟨_, _, h⟩ := except_bind_eq_ok.mp h
  split at h
  · rename_i kind hkind
    obtain ⟨bound, _, h⟩ := except_bind_eq_ok.mp h
    rw [kind_toOperation h]
    exact Kind.ofMethod?_eq_some_iff.mp hkind
  · cases h

theorem operation_of_ofCall {kind : Kind} {bound : Bound} (htarget : statement.target = builder)
    (hmethod : statement.method = kind.method)
    (hbound : Bound.ofCall statement kind.parameters = .ok bound) :
    statement.operation builder = bound.toOperation kind := by
  rw [operation, addresses, if_pos htarget, hmethod, Kind.ofMethod?_method]
  change (Bound.ofCall statement kind.parameters >>= fun bound => bound.toOperation kind) = _
  rw [hbound]
  rfl

theorem appends_of_operation (h : statement.operation builder = .ok operation) :
    statement.Appends builder operation := by
  refine ⟨fun recorded => ?_, method_kind_operation h⟩
  have hrecords := records_execute builder statement recorded
  rwa [h] at hrecords

theorem failsWith_of_operation (h : statement.operation builder = .error error) :
    statement.FailsWith builder error := by
  intro recorded
  have hrecords := records_execute builder statement recorded
  rwa [h] at hrecords

/-- A statement appends the operation that it means, and no other. -/
theorem appends_iff_operation :
    statement.Appends builder operation ↔ statement.operation builder = .ok operation := by
  refine ⟨fun h => ?_, appends_of_operation⟩
  cases hoperation : statement.operation builder with
  | error error => cases (h.execute_eq []).symm.trans (failsWith_of_operation hoperation [])
  | ok found =>
    have hsame := (h.execute_eq []).symm.trans ((appends_of_operation hoperation).execute_eq [])
    cases hsame
    rfl

theorem failsWith_iff_operation :
    statement.FailsWith builder error ↔ statement.operation builder = .error error := by
  refine ⟨fun h => ?_, failsWith_of_operation⟩
  cases hoperation : statement.operation builder with
  | error found => cases (h []).symm.trans (failsWith_of_operation hoperation []); rfl
  | ok operation => cases (h []).symm.trans ((appends_of_operation hoperation).execute_eq [])

end Call

/-- The outcome of a run of statements that has recorded some operations: all statements have been
run, or the next one fails. -/
def Ended (builder : String) (statements : List Call) (operations : List Operation) :
    Except ScriptError Unit → Prop
  | .ok () => operations.length = statements.length
  | .error error =>
    ∃ failed, statements[operations.length]? = some failed ∧ failed.FailsWith builder error

/-- What a run of statements records, and how it ends, whatever is recorded before. -/
structure Ran (builder : String) (statements : List Call) (operations : List Operation)
    (outcome : Except ScriptError Unit) : Prop where
  length_le : operations.length ≤ statements.length
  appends : List.Forall₂ (Call.Appends builder) (statements.take operations.length) operations
  ended : Ended builder statements operations outcome

section Statements

variable {builder : String} {statements : List Call}

theorem Ended.cons {statement : Call} {operation : Operation} {operations : List Operation}
    {outcome : Except ScriptError Unit} (h : Ended builder statements operations outcome) :
    Ended builder (statement :: statements) (operation :: operations) outcome := by
  cases outcome with
  | ok => exact congrArg (· + 1) h
  | error error => exact h

theorem execute_cons_of_appends (happends : statement.Appends builder operation)
    (rest : List Call) (recorded : List Operation) :
    execute builder (statement :: rest) recorded =
      execute builder rest (recorded ++ [operation]) := by
  change EStateM.bind (statement.execute builder) (fun _ => execute builder rest) recorded = _
  rw [EStateM.bind, happends.execute_eq recorded]

theorem execute_cons_of_failsWith (hfails : statement.FailsWith builder error) (rest : List Call)
    (recorded : List Operation) :
    execute builder (statement :: rest) recorded = .error error recorded := by
  change EStateM.bind (statement.execute builder) (fun _ => execute builder rest) recorded = _
  rw [EStateM.bind, hfails recorded]

theorem exists_ran (builder : String) (statements : List Call) :
    ∃ operations outcome, Ran builder statements operations outcome ∧
      ∀ recorded, execute builder statements recorded =
        match outcome with
        | .ok () => .ok () (recorded ++ operations)
        | .error error => .error error (recorded ++ operations) := by
  induction statements with
  | nil =>
    refine ⟨[], .ok (), ⟨Nat.le_refl 0, .nil, rfl⟩, fun recorded => ?_⟩
    rw [List.append_nil]
    rfl
  | cons statement rest ih =>
    cases hoperation : statement.operation builder with
    | error error =>
      have hfails := Call.failsWith_of_operation hoperation
      refine ⟨[], .error error, ⟨Nat.zero_le _, .nil, statement, rfl, hfails⟩, fun recorded => ?_⟩
      rw [execute_cons_of_failsWith hfails, List.append_nil]
    | ok operation =>
      have happends := Call.appends_of_operation hoperation
      obtain ⟨operations, outcome, hran, hexecute⟩ := ih
      refine ⟨operation :: operations, outcome, ⟨?_, ?_, hran.ended.cons⟩, fun recorded => ?_⟩
      · exact Nat.succ_le_succ hran.length_le
      · exact .cons happends hran.appends
      · have hrest := hexecute (recorded ++ [operation])
        rw [List.append_assoc, List.singleton_append] at hrest
        rw [execute_cons_of_appends happends, hrest]

/-- Statements that cannot all be run have a first that fails, and the run fails as it does. -/
theorem exists_failed_of_execute {recorded kept : List Operation} {error : ScriptError}
    (h : execute builder statements recorded = .error error kept) :
    ∃ before failed behind, statements = before ++ failed :: behind ∧
      (∀ statement ∈ before, ∃ operation, statement.operation builder = .ok operation) ∧
      failed.operation builder = .error error := by
  induction statements generalizing recorded with
  | nil => cases h
  | cons statement rest ih =>
    cases hoperation : statement.operation builder with
    | error found =>
      rw [execute_cons_of_failsWith (Call.failsWith_of_operation hoperation)] at h
      cases h
      exact ⟨[], statement, rest, rfl, fun _ hmem => absurd hmem List.not_mem_nil, hoperation⟩
    | ok operation =>
      rw [execute_cons_of_appends (Call.appends_of_operation hoperation)] at h
      obtain ⟨before, failed, behind, rfl, hbefore, hfailed⟩ := ih h
      refine ⟨statement :: before, failed, behind, rfl, ?_, hfailed⟩
      exact List.forall_mem_cons.mpr ⟨⟨operation, hoperation⟩, hbefore⟩

end Statements

theorem run_of_parse_error {builder source : String} {error : ParseError}
    (h : parse source = .error error) (recorded : List Operation) :
    run builder source recorded = (recorded, .error (.ofParseError error)) := by
  rw [run, h]

theorem exists_ran_of_parse {builder source : String} {statements : List Call}
    (h : parse source = .ok statements) :
    ∃ operations outcome, Ran builder statements operations outcome ∧
      ∀ recorded, run builder source recorded = (recorded ++ operations, outcome) := by
  obtain ⟨operations, outcome, hran, hexecute⟩ := exists_ran builder statements
  refine ⟨operations, outcome, hran, fun recorded => ?_⟩
  rw [run, h]
  cases outcome <;> simp only [hexecute]

/-- A run that fails has no statements, or one of them that fails. -/
theorem run_error_cases {builder source : String} {recorded : List Operation} {error : ScriptError}
    (h : (run builder source recorded).2 = .error error) :
    (∃ found, parse source = .error found ∧ error = .ofParseError found) ∨
    ∃ before failed behind, parse source = .ok (before ++ failed :: behind) ∧
      (∀ statement ∈ before, ∃ operation, statement.operation builder = .ok operation) ∧
      failed.operation builder = .error error := by
  cases hparse : parse source with
  | error found =>
    rw [run_of_parse_error hparse] at h
    exact .inl ⟨found, rfl, (Except.error.inj h).symm⟩
  | ok statements =>
    rw [run, hparse] at h
    cases hexecute : execute builder statements recorded with
    | ok value kept =>
      simp only [hexecute] at h
      cases h
    | error found kept =>
      simp only [hexecute] at h
      cases h
      obtain ⟨before, failed, behind, rfl, hfailed⟩ := exists_failed_of_execute hexecute
      exact .inr ⟨before, failed, behind, rfl, hfailed⟩

/-- A run only appends. -/
theorem prefix_run (builder source : String) (recorded : List Operation) :
    recorded <+: (run builder source recorded).1 := by
  cases hparse : parse source with
  | error error =>
    have hrun : (run builder source recorded).1 = recorded :=
      congrArg Prod.fst (run_of_parse_error hparse recorded)
    exact hrun.symm ▸ List.prefix_rfl
  | ok statements =>
    obtain ⟨operations, outcome, -, hrun⟩ := exists_ran_of_parse hparse
    rw [hrun]
    exact List.prefix_append recorded operations

/-- What is recorded behind several scripts, each for a builder. -/
def runAll (scripts : List (String × String)) (recorded : List Operation) : List Operation :=
  scripts.foldl (fun recorded script => (run script.1 script.2 recorded).1) recorded

theorem prefix_runAll (scripts : List (String × String)) (recorded : List Operation) :
    recorded <+: runAll scripts recorded := by
  induction scripts generalizing recorded with
  | nil => exact List.prefix_rfl
  | cons script rest ih => exact (prefix_run script.1 script.2 recorded).trans (ih _)

theorem reconstruct_eq_ok_iff {builder source : String} {result : List Operation} :
    reconstruct builder source = .ok result ↔ run builder source [] = (result, .ok ()) := by
  unfold reconstruct
  obtain ⟨operations, outcome⟩ := run builder source []
  cases outcome with
  | ok =>
    constructor
    · rintro ⟨⟩
      rfl
    · rintro ⟨⟩
      rfl
  | error error =>
    constructor
    · rintro ⟨⟩
    · intro h
      cases congrArg Prod.snd h

theorem Ran.outcome_eq_ok_iff {builder : String} {statements : List Call}
    {operations : List Operation} {outcome : Except ScriptError Unit}
    (h : Ran builder statements operations outcome) :
    outcome = .ok () ↔ operations.length = statements.length := by
  constructor
  · rintro rfl
    exact h.ended
  · intro hlength
    cases outcome with
    | ok => rfl
    | error error =>
      obtain ⟨failed, hfailed, -⟩ := h.ended
      rw [hlength, List.getElem?_length] at hfailed
      cases hfailed

/-- A script that is no program records nothing. Of any other script the statements in front of the
first that fails each append one operation, which depends on the builder and the statement only and
is of the kind of its method, and the one that fails leaves what is recorded. The script is
reconstructed exactly if no statement fails, and what several scripts have recorded stays in front
of what later ones record. -/
theorem run_records_prefix (builder source : String) :
    (∀ error, parse source = .error error → ∀ recorded,
      run builder source recorded = (recorded, .error (.ofParseError error))) ∧
    (∀ statements, parse source = .ok statements → ∃ operations outcome,
      Ran builder statements operations outcome ∧
      (∀ recorded, run builder source recorded = (recorded ++ operations, outcome)) ∧
      ∀ result, reconstruct builder source = .ok result ↔
        operations.length = statements.length ∧ result = operations) ∧
    ∀ earlier later recorded, runAll earlier recorded <+: runAll (earlier ++ later) recorded := by
  refine ⟨fun error => run_of_parse_error, fun statements hparse => ?_,
    fun earlier later recorded => ?_⟩
  · obtain ⟨operations, outcome, hran, hrun⟩ := exists_ran_of_parse hparse
    refine ⟨operations, outcome, hran, hrun, fun result => ?_⟩
    rw [reconstruct_eq_ok_iff, hrun, List.nil_append, Prod.mk.injEq, hran.outcome_eq_ok_iff]
    exact ⟨fun ⟨hresult, hlength⟩ => ⟨hlength, hresult.symm⟩,
      fun ⟨hlength, hresult⟩ => ⟨hresult.symm, hlength⟩⟩
  · rw [runAll, runAll, List.foldl_append]
    exact prefix_runAll later _

end MigrationScript
