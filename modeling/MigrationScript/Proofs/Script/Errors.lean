import MigrationScript.Proofs.Meaning.Pointing
import MigrationScript.Proofs.Meaning.Run
import MigrationScript.Proofs.Tree.Fault
import MigrationScript.Proofs.Tree.Seats

namespace MigrationScript

open Lexer

section Errors

variable {source : String}

/-- What is at fault in a source that is no script is some text of it, or its end. -/
theorem covers_of_parse_error {error : ParseError} (h : parse source = .error error) :
    (∃ covered, covered ≠ [] ∧ error.span.slice? source.toList = some covered) ∨
    ∃ expected, error = ⟨.unexpected expected .endOfInput,
      ⟨width source.toList, width source.toList⟩⟩ := by
  obtain ⟨after, hprogram⟩ := Parser.parse_eq_error_iff.mp h
  obtain ⟨read, hrest, -, hblames⟩ := Parser.halts_program (at_ofSource source).ends hprogram
  have htiles := tiles_tokensFrom 0 source.toList
  cases hblames with
  | unexpected expectation heq =>
    cases hafter : after.rest with
    | nil =>
      rw [Parser.current_eq_finish hprogram hafter] at heq
      exact .inr ⟨expectation, heq⟩
    | cons found behind =>
      have hcurrent : after.current = found := by rw [Cursor.current, hafter, List.headD_cons]
      rw [hcurrent] at heq
      rw [hafter] at hrest
      have hmem : found ∈ tokensFrom 0 source.toList := by
        change found ∈ (Cursor.ofSource source).rest
        rw [hrest]
        exact List.mem_append_right read List.mem_cons_self
      obtain ⟨-, covered, hne, hcovered⟩ := htiles.exists_slice width_nil found hmem
      refine .inl ⟨covered, hne, ?_⟩
      rw [heq, (ParseError.reports_unexpected expectation found).span_eq]
      exact hcovered
  | @callForm front dotted first last segments _ _ hread _ _ _ hfirst hlast hspan =>
    have hinfix : dotted <:+: tokensFrom 0 source.toList :=
      ⟨front, after.rest, by rw [← hread, ← hrest]; rfl⟩
    have hne : dotted ≠ [] := by
      rintro rfl
      cases hfirst
    have hspaced := (spaced_tokensFrom 0 source.toList).of_sublist hinfix.sublist
    rw [hspan, hspaced.merge_eq hfirst hlast]
    exact .inl (htiles.slice_hull hinfix hne)

/-- A text that is covered cuts the source into three parts. -/
theorem exists_cut_of_slice {span : Span} {text covered : List Char}
    (h : span.slice? text = some covered) : ∃ before behind, text = before ++ covered ++ behind ∧
      span = ⟨width before, width before + width covered⟩ := by
  obtain ⟨before, behind, htext, hstart, hstop⟩ := Span.slice?_eq_some_iff.mp h
  refine ⟨before, behind, htext, ?_⟩
  rw [hstart, hstop]

end Errors

/-- The error of a run that fails covers a text of the source; the text is empty only if the source
ends too early. If the source can be read, the error stands within the first statement that fails,
and has the span of the node of this statement that is at fault for its cause, from the first token
of the node to the last one. -/
theorem errors_point_into_source {builder source : String} {recorded : List Operation}
    {error : ScriptError} (h : (run builder source recorded).2 = .error error) :
    (∃ before covered behind, source.toList = before ++ covered ++ behind ∧
      error.span = ⟨width before, width before + width covered⟩ ∧
      (covered = [] →
        behind = [] ∧ ∃ expected, error.cause = .parse (.unexpected expected .endOfInput))) ∧
    ∀ statements, parse source = .ok statements →
      ∃ earlier failed later, statements = earlier ++ failed :: later ∧
        (∀ statement ∈ earlier, ∃ operation, statement.operation builder = .ok operation) ∧
        failed.operation builder = .error error ∧
        failed.span.start ≤ error.span.start ∧ error.span.stop ≤ failed.span.stop ∧
        ∃ node run, Culprit failed error.cause node ∧ run <:+: tokenize source ∧
          node.SpeltBy (run.map (·.kind)) ∧ error.span = node.span ∧ node.span = hull run := by
  rcases run_error_cases h with
    ⟨found, hparse, rfl⟩ | ⟨earlier, failed, later, hparse, hall, hfailed⟩
  · refine ⟨?_, fun statements hstatements => by cases hparse.symm.trans hstatements⟩
    rcases covers_of_parse_error hparse with ⟨covered, hne, hcovered⟩ | ⟨expected, rfl⟩
    · obtain ⟨before, behind, hsource, hspan⟩ := exists_cut_of_slice hcovered
      exact ⟨before, covered, behind, hsource, hspan, fun hempty => absurd hempty hne⟩
    · refine ⟨source.toList, [], [], ?_, rfl, fun _ => ⟨rfl, expected, rfl⟩⟩
      rw [List.append_nil, List.append_nil]
  · obtain ⟨node, hculprit, hspan⟩ := Call.errs_operation builder failed error hfailed
    have hmem : failed ∈ earlier ++ failed :: later :=
      List.mem_append_right earlier List.mem_cons_self
    obtain ⟨run, hrun, hsits, hinside⟩ := exists_sits_of_within hparse hmem hculprit.within
    constructor
    · obtain ⟨covered, hne, hcovered⟩ :=
        (tiles_tokensFrom 0 source.toList).slice_hull hrun hsits.ne_nil
      rw [← hsits.span_eq, ← hspan] at hcovered
      obtain ⟨before, behind, hsource, hcut⟩ := exists_cut_of_slice hcovered
      exact ⟨before, covered, behind, hsource, hcut, fun hempty => absurd hempty hne⟩
    · intro statements hstatements
      obtain rfl := Except.ok.inj (hparse.symm.trans hstatements)
      rw [← hspan] at hinside
      have htokens : run <:+: tokenize source := hrun.trans (List.prefix_append _ _).isInfix
      exact ⟨earlier, failed, later, rfl, hall, hfailed, hinside.1, hinside.2, node, run, hculprit,
        htokens, hsits.spelt, hspan, hsits.span_eq⟩

theorem errors_point_into_source_unknownArgument :
    (run "mb" "mb.Sql(\"a\"); mb.Sql(text: 1);" []).2 =
      .error ⟨.unknownArgument "Sql" "text", ⟨20, 27⟩⟩ ∧
    ∃ earlier failed later node,
      parse "mb.Sql(\"a\"); mb.Sql(text: 1);" = .ok (earlier ++ failed :: later) ∧
      Culprit failed (.unknownArgument "Sql" "text") node ∧ node.span = ⟨20, 27⟩ := by
  have hrun : (run "mb" "mb.Sql(\"a\"); mb.Sql(text: 1);" []).2 =
      .error ⟨.unknownArgument "Sql" "text", ⟨20, 27⟩⟩ := by decide +kernel
  have hread : ((parse "mb.Sql(\"a\"); mb.Sql(text: 1);").map List.length).isOk = true := by
    decide +kernel
  refine ⟨hrun, ?_⟩
  cases hparse : parse "mb.Sql(\"a\"); mb.Sql(text: 1);" with
  | error error =>
    rw [hparse] at hread
    cases hread
  | ok statements =>
    obtain ⟨-, hstatements⟩ := errors_point_into_source hrun
    obtain ⟨earlier, failed, later, rfl, -, -, -, -, node, -, hculprit, -, -, hspan, -⟩ :=
      hstatements statements hparse
    exact ⟨earlier, failed, later, node, rfl, hculprit, hspan.symm⟩

end MigrationScript
