import MigrationScript.Proofs.Meaning.Run
import MigrationScript.Proofs.Meaning.Spans
import MigrationScript.Proofs.Tree.Moved
import MigrationScript.Proofs.Tree.Parse

/-!
# Layout and comments carry no meaning

Reading and running commute with every change of spans, so in particular with forgetting them.
Without spans a source is the list of the kinds of its tokens.
-/

namespace MigrationScript

/-! ### Moved statements -/

section Moved

variable {change : Span → Span}

/-- The same end of a run with its error at another place. -/
def movedRun (change : Span → Span) :
    EStateM.Result ScriptError (List Operation) Unit →
      EStateM.Result ScriptError (List Operation) Unit
  | .ok () recorded => .ok () recorded
  | .error error recorded => .error (error.mapSpan change) recorded

theorem execute_mapSpans (builder : String) (statements : List Call) (recorded : List Operation) :
    execute builder (statements.map (Call.mapSpans change)) recorded =
      movedRun change (execute builder statements recorded) := by
  induction statements generalizing recorded with
  | nil => rfl
  | cons statement rest ih =>
    have hmoved : (statement.mapSpans change).operation builder = _ :=
      Call.operation_mapSpans builder statement
    rw [List.map_cons]
    cases hoperation : statement.operation builder with
    | ok operation =>
      rw [hoperation, moved_ok] at hmoved
      rw [execute_cons_of_appends (Call.appends_of_operation hmoved),
        execute_cons_of_appends (Call.appends_of_operation hoperation), ih]
    | error error =>
      rw [hoperation, moved_error] at hmoved
      rw [execute_cons_of_failsWith (Call.failsWith_of_operation hmoved),
        execute_cons_of_failsWith (Call.failsWith_of_operation hoperation), movedRun]

/-- Runs what has been read of a script behind the operations recorded before. -/
def runParsed (builder : String) (recorded : List Operation) :
    Except ParseError (List Call) → List Operation × Except ScriptError Unit
  | .error error => (recorded, .error (.ofParseError error))
  | .ok statements =>
    match execute builder statements recorded with
    | .ok () recorded => (recorded, .ok ())
    | .error error recorded => (recorded, .error error)

theorem runParsed_parse (builder source : String) (recorded : List Operation) :
    runParsed builder recorded (parse source) = run builder source recorded := by
  unfold run
  cases parse source <;> rfl

theorem runParsed_movedParse (builder : String) (recorded : List Operation)
    (parsed : Except ParseError (List Call)) :
    runParsed builder recorded (movedParse change parsed) =
      (runParsed builder recorded parsed).map id (moved change) := by
  cases parsed with
  | error error => rfl
  | ok statements =>
    rw [movedParse, runParsed, runParsed, execute_mapSpans]
    cases execute builder statements recorded <;> rfl

end Moved

/-! ### Sources with the same tokens -/

variable {first second : String}

theorem sourceKinds_eq_of_tokenize
    (h : (tokenize first).map (·.kind) = (tokenize second).map (·.kind)) :
    sourceKinds first = sourceKinds second := by
  rw [sourceKinds, sourceKinds, List.map_dropLast, List.map_dropLast, h]

/-- Without spans nothing of a source is left but the kinds of its tokens. -/
theorem eraseSpans_ofSource (source : String) :
    (Cursor.ofSource source).mapSpans (fun _ => default) =
      ⟨(sourceKinds source).map (⟨·, default⟩), ⟨.endOfInput, default⟩, default⟩ := by
  rw [sourceKinds_eq, List.map_map]
  rfl

theorem movedParse_erase_eq (h : sourceKinds first = sourceKinds second) :
    movedParse (fun _ => default) (parse first) = movedParse (fun _ => default) (parse second) := by
  rw [← parseFrom_ofSource, ← parseFrom_ofSource, ← parseFrom_mapSpans fun _ _ => rfl,
    ← parseFrom_mapSpans fun _ _ => rfl, eraseSpans_ofSource, eraseSpans_ofSource, h]

/-- The two runs record the same and end alike, but for the place of an error. -/
theorem run_erase_eq (h : sourceKinds first = sourceKinds second) (builder : String)
    (recorded : List Operation) :
    (run builder first recorded).map id (moved fun _ => default) =
      (run builder second recorded).map id (moved fun _ => default) := by
  rw [← runParsed_parse, ← runParsed_parse, ← runParsed_movedParse, ← runParsed_movedParse,
    movedParse_erase_eq h]

theorem reconstruct_eq_map (builder source : String) :
    reconstruct builder source =
      (run builder source []).2.map fun _ => (run builder source []).1 := by
  rw [reconstruct]
  obtain ⟨operations, outcome⟩ := run builder source []
  cases outcome <;> rfl

theorem reconstruct_erase_eq (h : sourceKinds first = sourceKinds second) (builder : String) :
    moved (fun _ => default) (reconstruct builder first) =
      moved (fun _ => default) (reconstruct builder second) := by
  obtain ⟨hoperations, houtcome⟩ := Prod.ext_iff.mp (run_erase_eq h builder [])
  simp only [Prod.map_fst, Prod.map_snd, id_eq] at hoperations houtcome
  rw [reconstruct_eq_map, reconstruct_eq_map, moved_map, moved_map, hoperations, houtcome]

/-- Two programs have the same trees but for spans, or two sources are no programs for the same
cause. -/
theorem alike_of_movedParse_eq {parsed parsed' : Except ParseError (List Call)}
    (h : movedParse (fun _ => default) parsed = movedParse (fun _ => default) parsed') :
    (∃ statements statements', parsed = .ok statements ∧ parsed' = .ok statements' ∧
        statements.map Call.eraseSpans = statements'.map Call.eraseSpans) ∨
      ∃ error error', parsed = .error error ∧ parsed' = .error error' ∧
        error.cause = error'.cause := by
  cases parsed with
  | ok statements =>
    cases parsed' with
    | ok statements' => exact .inl ⟨statements, statements', rfl, rfl, Except.ok.inj h⟩
    | error error' => cases h
  | error error =>
    cases parsed' with
    | ok statements' => cases h
    | error error' =>
      exact .inr ⟨error, error', rfl, rfl, (congrArg ParseError.cause (Except.error.inj h :) :)⟩

theorem alike_of_moved_eq {α : Type} {change : Span → Span}
    {outcome outcome' : Except ScriptError α} (h : moved change outcome = moved change outcome') :
    (∃ value, outcome = .ok value ∧ outcome' = .ok value) ∨
      ∃ error error', outcome = .error error ∧ outcome' = .error error' ∧
        error.cause = error'.cause := by
  cases outcome with
  | ok value =>
    cases outcome' with
    | ok value' => exact .inl ⟨value, rfl, congrArg Except.ok (Except.ok.inj h).symm⟩
    | error error' => cases h
  | error error =>
    cases outcome' with
    | ok value' => cases h
    | error error' =>
      exact .inr ⟨error, error', rfl, rfl, (congrArg ScriptError.cause (Except.error.inj h :) :)⟩

/-- Of two sources whose tokens have the same kinds, whatever white space and comments lie between
the tokens and however these are spelled, either both are programs, with the same trees but for
spans, or both are none, for the same cause: the message, what is expected and what is found are the
same. For every builder either both reconstruct the same operations, or both fail with errors that
differ in their places only. -/
theorem same_meaning_of_same_kinds
    (hkinds : (tokenize first).map (·.kind) = (tokenize second).map (·.kind)) (builder : String) :
    ((∃ statements statements', parse first = .ok statements ∧ parse second = .ok statements' ∧
        statements.map Call.eraseSpans = statements'.map Call.eraseSpans) ∨
      ∃ error error', parse first = .error error ∧ parse second = .error error' ∧
        error.text = error'.text ∧ error.expected? = error'.expected? ∧
        error.found? = error'.found?) ∧
    ((∃ operations, reconstruct builder first = .ok operations ∧
        reconstruct builder second = .ok operations) ∨
      ∃ error error', reconstruct builder first = .error error ∧
        reconstruct builder second = .error error' ∧ error.cause = error'.cause) := by
  have hsource := sourceKinds_eq_of_tokenize hkinds
  refine ⟨?_, alike_of_moved_eq (reconstruct_erase_eq hsource builder)⟩
  obtain halike | ⟨error, error', hfirst, hsecond, hcause⟩ :=
    alike_of_movedParse_eq (movedParse_erase_eq hsource)
  · exact .inl halike
  · refine .inr ⟨error, error', hfirst, hsecond, ?_, ?_, ?_⟩
    · rw [ParseError.text, ParseError.text, hcause]
    · rw [ParseError.expected?, ParseError.expected?, hcause]
    · rw [ParseError.found?, ParseError.found?, hcause]

/-- A verbatim name and string, a comment and other white space do not change what is recorded. -/
theorem same_meaning_respaced :
    (tokenize "mb.DropTable(\"T\");").map (·.kind) =
        (tokenize "@mb . DropTable/* it */(\n@\"T\" ) ; // gone").map (·.kind) ∧
      ((∃ operations, reconstruct "mb" "mb.DropTable(\"T\");" = .ok operations ∧
          reconstruct "mb" "@mb . DropTable/* it */(\n@\"T\" ) ; // gone" = .ok operations) ∨
        ∃ error error', reconstruct "mb" "mb.DropTable(\"T\");" = .error error ∧
          reconstruct "mb" "@mb . DropTable/* it */(\n@\"T\" ) ; // gone" = .error error' ∧
          error.cause = error'.cause) := by
  have hkinds : (tokenize "mb.DropTable(\"T\");").map (·.kind) =
      (tokenize "@mb . DropTable/* it */(\n@\"T\" ) ; // gone").map (·.kind) := by
    decide +kernel
  exact ⟨hkinds, (same_meaning_of_same_kinds hkinds "mb").2⟩

end MigrationScript
