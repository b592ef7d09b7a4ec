import MigrationScript.Proofs.Meaning.Declared
import MigrationScript.Proofs.Meaning.Run
import MigrationScript.Proofs.Meaning.Spans
import MigrationScript.RoundTrip

/-!
# Scripts that are written and read again

A written script has a tree, the tree is parsed from it in every layout, and its statements record
the operations. Of an operation nothing is lost but which NaN it held.
-/

namespace MigrationScript

section Script

variable {builder : String} {operations : List Operation}

/-- Statements with the trees of operations record the operations. -/
theorem execute_trees {statements : List Call}
    (hfaults : ∀ operation ∈ operations, operation.fault? = none)
    (htrees : statements.map Call.eraseSpans = operations.map (·.tree builder))
    (recorded : List Operation) :
    execute builder statements recorded =
      .ok () (recorded ++ operations.map (·.canonical)) := by
  -- What is recorded grows with each statement, so it is left open in the induction.
  induction operations generalizing statements recorded with
  | nil =>
    rw [List.map_eq_nil_iff.mp htrees, List.map_nil, List.append_nil]
    rfl
  | cons operation rest ih =>
    obtain ⟨statement, others, rfl, htree, hothers⟩ := List.map_eq_cons_iff.mp htrees
    have htreeMeaning : (operation.tree builder).operation builder = .ok operation.canonical :=
      Operation.operation_tree (hfaults operation List.mem_cons_self)
    -- The statement has spans that the tree lacks; its meaning does not depend on them.
    have hmeaning : statement.operation builder = .ok operation.canonical := by
      rw [← moved_eq_ok_iff, ← Call.operation_mapSpans]
      exact (congrArg (Call.operation builder) htree).trans htreeMeaning
    have happends := Call.appends_of_operation hmeaning
    have hrest := ih (fun operation hmem => hfaults operation (List.mem_cons_of_mem _ hmem)) hothers
      (recorded ++ [operation.canonical])
    rw [List.append_assoc, List.singleton_append] at hrest
    rw [execute_cons_of_appends happends]
    exact hrest

theorem reconstruct_render (hbuilder : Identifier.isValid builder = true)
    (hfaults : fault? operations = none) (layout : Layout) :
    reconstruct builder (.ofList (render layout builder operations)) =
      .ok (operations.map (·.canonical)) := by
  obtain ⟨statements, hparse, htrees⟩ := parse_render hbuilder layout operations
  have hexecute := execute_trees (fault?_eq_none_iff.mp hfaults) htrees []
  rw [reconstruct_eq_ok_iff, run, hparse]
  dsimp only
  rw [hexecute, List.nil_append]

theorem generate_eq_ok (hbuilder : Identifier.isValid builder = true)
    (hfaults : fault? operations = none) (layout : Layout) :
    generate layout builder operations = .ok (.ofList (render layout builder operations)) := by
  rw [generate, generateError?, if_pos hbuilder, hfaults]
  rfl

/-- For a builder whose name can be written and operations without faults there is a script in every
layout, and it is read back as these operations: each field is the same, but for defaults that are
not numbers, which all come back as the usual NaN. -/
theorem reconstruct_generate (hbuilder : Identifier.isValid builder = true)
    (hfaults : fault? operations = none) (layout : Layout) :
    ∃ script, generate layout builder operations = .ok script ∧
      reconstruct builder script = .ok (operations.map (·.canonical)) ∧
      ((∀ operation ∈ operations, operation.hasNaN = false) →
        reconstruct builder script = .ok operations) := by
  have hread := reconstruct_render hbuilder hfaults layout
  refine ⟨_, generate_eq_ok hbuilder hfaults layout, hread, fun hnumbers => ?_⟩
  have hsame : operations.map (·.canonical) = operations :=
    calc operations.map (·.canonical)
        = operations.map id := List.map_congr_left fun operation hmem =>
          Operation.canonical_of_hasNaN (hnumbers operation hmem)
      _ = operations := List.map_id _
  rw [hread, hsame]

/-- A table with a negative zero, under a column name that is a reserved word. -/
def negativeZero : Operation :=
  .createTable {
    name := "accounts"
    columns := [{
      name := "new"
      table := "accounts"
      type := "double"
      defaultValue := some (.double ⟨0x8000000000000000⟩) }] }

theorem reconstruct_generate_negativeZero :
    Identifier.isValid "migration" = true ∧ fault? [negativeZero] = none ∧
      ∃ script, generate { ending := .crlf } "migration" [negativeZero] = .ok script ∧
        reconstruct "migration" script = .ok [negativeZero] := by
  have hbuilder : Identifier.isValid "migration" = true := by decide
  have hfaults : fault? [negativeZero] = none := by decide
  obtain ⟨script, hscript, -, hread⟩ := reconstruct_generate hbuilder hfaults { ending := .crlf }
  exact ⟨hbuilder, hfaults, script, hscript, hread (by decide)⟩

/-! ### The check of a script -/

theorem firstDifference_of_numbers (index : Nat)
    (h : ∀ operation ∈ operations, operation.hasNaN = false) :
    firstDifference index operations (operations.map (·.canonical)) = none := by
  induction operations generalizing index with
  | nil => rfl
  | cons operation rest ih =>
    have hsame : operation.same operation.canonical = true := by
      rw [Operation.same_canonical, h operation List.mem_cons_self]
      rfl
    rw [List.map_cons, firstDifference, if_pos hsame]
    exact ih _ fun operation hmem => h operation (List.mem_cons_of_mem _ hmem)

/-- The first operation that holds a NaN is the first that differs. -/
theorem firstDifference_of_nan (index : Nat) {before after : List Operation}
    {operation : Operation} (hbefore : ∀ earlier ∈ before, earlier.hasNaN = false)
    (hnan : operation.hasNaN = true) :
    firstDifference index (before ++ operation :: after)
        ((before ++ operation :: after).map (·.canonical)) =
      some (index + before.length, operation, operation.canonical) := by
  induction before generalizing index with
  | nil =>
    have hdiffers : ¬operation.same operation.canonical = true := by
      rw [Operation.same_canonical, hnan]
      decide
    rw [List.nil_append, List.map_cons, firstDifference, if_neg hdiffers]
    rfl
  | cons earlier before ih =>
    have hsame : earlier.same earlier.canonical = true := by
      rw [Operation.same_canonical, hbefore earlier List.mem_cons_self]
      rfl
    have hrest := ih (index + 1) fun earlier hmem => hbefore earlier (List.mem_cons_of_mem _ hmem)
    rw [List.cons_append, List.map_cons, firstDifference, if_pos hsame, hrest, List.length_cons,
      Nat.add_assoc, Nat.add_comm 1]

theorem verify_of_not_isValid (layout : Layout) (hbuilder : Identifier.isValid builder = false) :
    verify layout builder operations = .error (.generate (.invalidBuilderName builder)) := by
  have herror : generateError? builder operations = some (.invalidBuilderName builder) := by
    rw [generateError?, hbuilder]
    rfl
  rw [verify, generate, herror]

theorem verify_of_fault (layout : Layout) (hbuilder : Identifier.isValid builder = true)
    {fault : Fault} (hfault : fault? operations = some fault) :
    verify layout builder operations = .error (.generate (.fault fault)) := by
  have herror : generateError? builder operations = some (.fault fault) := by
    rw [generateError?, if_pos hbuilder, hfault]
    rfl
  rw [verify, generate, herror]

theorem verify_of_reads (hbuilder : Identifier.isValid builder = true)
    (hfaults : fault? operations = none) (layout : Layout) :
    verify layout builder operations =
      match firstDifference 0 operations (operations.map (·.canonical)) with
      | some (index, expected, actual) => .error (.mismatch index expected actual)
      | none => .ok (.ofList (render layout builder operations)) := by
  have hlength : ¬(operations.map (·.canonical)).length ≠ operations.length := by
    rw [List.length_map]
    exact fun hne => hne rfl
  rw [verify, generate_eq_ok hbuilder hfaults layout]
  dsimp only
  rw [reconstruct_render hbuilder hfaults layout]
  exact if_neg hlength

theorem verify_of_first_nan (layout : Layout) (hbuilder : Identifier.isValid builder = true)
    (hfaults : fault? operations = none) {before after : List Operation} {operation : Operation}
    (hsplit : operations = before ++ operation :: after)
    (hbefore : ∀ earlier ∈ before, earlier.hasNaN = false) (hnan : operation.hasNaN = true) :
    verify layout builder operations =
      .error (.mismatch before.length operation operation.canonical) := by
  have hdifference : firstDifference 0 operations (operations.map (·.canonical)) =
      some (before.length, operation, operation.canonical) := by
    rw [hsplit, firstDifference_of_nan 0 hbefore hnan, Nat.zero_add]
  rw [verify_of_reads hbuilder hfaults, hdifference]

theorem verify_of_numbers (layout : Layout) (hbuilder : Identifier.isValid builder = true)
    (hfaults : fault? operations = none)
    (hnumbers : ∀ operation ∈ operations, operation.hasNaN = false) :
    verify layout builder operations = .ok (.ofList (render layout builder operations)) := by
  rw [verify_of_reads hbuilder hfaults, firstDifference_of_numbers 0 hnumbers]

/-- The operations are all without NaN, or there is a first that holds one. -/
theorem exists_first_nan (operations : List Operation) :
    (∀ operation ∈ operations, operation.hasNaN = false) ∨
      ∃ before operation after, operations = before ++ operation :: after ∧
        (∀ earlier ∈ before, earlier.hasNaN = false) ∧ operation.hasNaN = true := by
  cases hfind : operations.find? (·.hasNaN) with
  | none =>
    left
    intro operation hmem
    exact Bool.eq_false_iff.mpr (List.find?_eq_none.mp hfind operation hmem)
  | some operation =>
    right
    obtain ⟨hnan, before, after, hsplit, hbefore⟩ := List.find?_eq_some_iff_append.mp hfind
    refine ⟨before, operation, after, hsplit, ?_, hnan⟩
    intro earlier hmem
    exact Bool.not_eq_eq_eq_not.mp (hbefore earlier hmem)

/-- The check refuses to write, reports a difference or gives a script. -/
theorem verify_cases (layout : Layout) (builder : String) (operations : List Operation) :
    (∃ error, verify layout builder operations = .error (.generate error)) ∨
      (∃ index expected actual,
        verify layout builder operations = .error (.mismatch index expected actual)) ∨
      ∃ script, verify layout builder operations = .ok script := by
  by_cases hbuilder : Identifier.isValid builder = true
  · cases hfaults : fault? operations with
    | some fault => exact .inl ⟨_, verify_of_fault layout hbuilder hfaults⟩
    | none =>
      obtain hnumbers | ⟨before, operation, after, hsplit, hbefore, hnan⟩ :=
        exists_first_nan operations
      · exact .inr (.inr ⟨_, verify_of_numbers layout hbuilder hfaults hnumbers⟩)
      · exact .inr (.inl ⟨_, _, _,
          verify_of_first_nan layout hbuilder hfaults hsplit hbefore hnan⟩)
  · exact .inl ⟨_, verify_of_not_isValid layout (Bool.eq_false_iff.mpr hbuilder)⟩

end Script

/-- The check fails before anything is read if the name of the builder cannot be written or an
operation has a fault. Otherwise it reports the first operation with a default that is not a number,
and gives the script if there is none. It never finds a script that cannot be read or that means
another number of operations. -/
theorem verify_outcome (layout : Layout) (builder : String) (operations : List Operation) :
    (Identifier.isValid builder = false →
      verify layout builder operations = .error (.generate (.invalidBuilderName builder))) ∧
    (Identifier.isValid builder = true → ∀ fault, fault? operations = some fault →
      verify layout builder operations = .error (.generate (.fault fault))) ∧
    (Identifier.isValid builder = true → fault? operations = none →
      (∀ before operation after, operations = before ++ operation :: after →
        (∀ earlier ∈ before, earlier.hasNaN = false) → operation.hasNaN = true →
        verify layout builder operations =
          .error (.mismatch before.length operation operation.canonical)) ∧
      ((∀ operation ∈ operations, operation.hasNaN = false) →
        ∃ script, generate layout builder operations = .ok script ∧
          verify layout builder operations = .ok script)) ∧
    (∀ cause, verify layout builder operations ≠ .error (.reconstruct cause)) ∧
    ∀ expected actual,
      verify layout builder operations ≠ .error (.lengthMismatch expected actual) := by
  refine ⟨verify_of_not_isValid layout, fun hbuilder fault => verify_of_fault layout hbuilder,
    fun hbuilder hfaults => ⟨?_, ?_⟩, ?_, ?_⟩
  · intro before operation after hsplit hbefore hnan
    exact verify_of_first_nan layout hbuilder hfaults hsplit hbefore hnan
  · intro hnumbers
    exact ⟨_, generate_eq_ok hbuilder hfaults layout,
      verify_of_numbers layout hbuilder hfaults hnumbers⟩
  · intro cause heq
    obtain ⟨_, hverify⟩ | ⟨_, _, _, hverify⟩ | ⟨_, hverify⟩ :=
      verify_cases layout builder operations <;>
    cases hverify.symm.trans heq
  · intro expected actual heq
    obtain ⟨_, hverify⟩ | ⟨_, _, _, hverify⟩ | ⟨_, hverify⟩ :=
      verify_cases layout builder operations <;>
    cases hverify.symm.trans heq

end MigrationScript
