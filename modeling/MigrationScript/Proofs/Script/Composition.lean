import MigrationScript.Proofs.Script.Writer

/-!
# Scripts of several operations

The writer has a state, its level of indentation, which could carry over from one operation to the
next. It does not: every operation leaves the level as it was.
-/

namespace MigrationScript

section Generate

variable {layout : Layout} {builder : String} {operations : List Operation}

theorem generate_of_isValid (hbuilder : Identifier.isValid builder = true) :
    generate layout builder operations =
      match fault? operations with
      | some cause => .error (.fault cause)
      | none => .ok (.ofList (render layout builder operations)) := by
  rw [generate, generateError?, if_pos hbuilder]
  cases fault? operations <;> rfl

theorem fault?_append (first second : List Operation) :
    fault? (first ++ second) = (fault? first).or (fault? second) :=
  List.findSome?_append

theorem render_append (first second : List Operation) :
    render layout builder (first ++ second) =
      render layout builder first ++ render layout builder second := by
  rw [render_eq, render_eq, render_eq, List.flatMap_append, List.flatMap_append]

/-- The second part of a script is reached only if the first can be written. -/
theorem generate_append (hbuilder : Identifier.isValid builder = true)
    (first second : List Operation) :
    generate layout builder (first ++ second) = do
      let front ← generate layout builder first
      let behind ← generate layout builder second
      return front ++ behind := by
  simp only [generate_of_isValid hbuilder, fault?_append, render_append, String.ofList_append]
  cases fault? first with
  | some cause => rfl
  | none => cases fault? second <;> rfl

theorem generate_nil (hbuilder : Identifier.isValid builder = true) :
    generate layout builder [] = .ok "" :=
  generate_of_isValid hbuilder

/-- One operation after the other, each for itself. -/
theorem generate_eq_mapM (hbuilder : Identifier.isValid builder = true) :
    generate layout builder operations =
      (operations.mapM fun operation => generate layout builder [operation]).map String.join := by
  induction operations with
  | nil => exact generate_nil hbuilder
  | cons first rest ih =>
    rw [← List.singleton_append, generate_append hbuilder, ih, List.singleton_append,
      List.mapM_cons]
    cases generate layout builder [first] with
    | error error => rfl
    | ok front =>
      cases rest.mapM fun operation => generate layout builder [operation] with
      | error error => rfl
      | ok texts => exact congrArg Except.ok String.join_cons.symm

/-- The first operation that cannot be written decides how the script fails. -/
theorem generate_of_fault (hbuilder : Identifier.isValid builder = true)
    {before after : List Operation} {operation : Operation} {cause : Fault}
    (hbefore : ∀ earlier ∈ before, earlier.fault? = none) (hfault : operation.fault? = some cause) :
    generate layout builder (before ++ operation :: after) = .error (.fault cause) := by
  have hnone : fault? before = none := List.findSome?_eq_none_iff.mpr hbefore
  have hall : fault? (before ++ operation :: after) = some cause := by
    rw [fault?_append, hnone, fault?, List.findSome?_cons, hfault]
    rfl
  rw [generate_of_isValid hbuilder, hall]

end Generate

/-- With a builder that can be named, two lists of operations one behind the other have the script
of the first and behind it that of the second; if the first cannot be written, the whole fails as
the first does, and else as the second does. So a script is made up of the texts that its operations
have alone, and it fails as the first of them that has a fault.

Behind any operations the writer stands at the outermost level again, and it is never told to leave
that level. -/
theorem script_of_each_operation {builder : String} (hbuilder : Identifier.isValid builder = true)
    (layout : Layout) :
    (∀ first second, generate layout builder (first ++ second) = do
      let front ← generate layout builder first
      let behind ← generate layout builder second
      return front ++ behind) ∧
    (∀ operations, generate layout builder operations =
      (operations.mapM fun operation => generate layout builder [operation]).map String.join) ∧
    (∀ before operation after cause, (∀ earlier ∈ before, earlier.fault? = none) →
      operation.fault? = some cause →
        generate layout builder (before ++ operation :: after) = .error (.fault cause)) ∧
    ∀ operations : List Operation,
      (Writer.run {} (operations.flatMap (·.steps builder))).level = 0 ∧
      ∀ before after, operations.flatMap (·.steps builder) = before ++ .dedent :: after →
        0 < (Writer.run {} before).level := by
  refine ⟨generate_append hbuilder, fun _ => generate_eq_mapM hbuilder,
    fun _ _ _ _ => generate_of_fault hbuilder, fun operations => ?_⟩
  have hprints := prints_flatMap operations fun operation => operation.prints builder
  refine ⟨?_, hprints.lt_level {}⟩
  rw [hprints.run_eq]

theorem script_of_each_operation_drops :
    Identifier.isValid "mb" = true ∧
      generate {} "mb" ([.dropTable ⟨"A", none⟩] ++ [.dropTable ⟨"B", none⟩]) =
        .ok ("mb.DropTable(\"A\");\n" ++ "mb.DropTable(\"B\");\n") ∧
      generate {} "mb" ([.dropTable ⟨"A", none⟩] ++ .sql ⟨"", false⟩ :: [.dropTable ⟨"", none⟩]) =
        .error (.fault (.missingField .sql "sql")) := by
  have hbuilder : Identifier.isValid "mb" = true := by decide
  have hfirst : generate {} "mb" [.dropTable ⟨"A", none⟩] = .ok "mb.DropTable(\"A\");\n" := rfl
  have hsecond : generate {} "mb" [.dropTable ⟨"B", none⟩] = .ok "mb.DropTable(\"B\");\n" := rfl
  obtain ⟨happend, -, hfault, -⟩ := script_of_each_operation hbuilder {}
  refine ⟨hbuilder, ?_, hfault _ _ _ _ (by decide) (by decide)⟩
  rw [happend, hfirst, hsecond]
  rfl

end MigrationScript
