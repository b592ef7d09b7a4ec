import MigrationScript.Proofs.Tree.Bound
import MigrationScript.Proofs.Tree.Completeness
import MigrationScript.Proofs.Tree.Tidy

namespace MigrationScript

/-- The kinds of the tokens of a source, without the end. -/
def sourceKinds (source : String) : List TokenKind :=
  (tokenize source).dropLast.map (·.kind)

theorem sourceKinds_eq (source : String) :
    sourceKinds source = (Tokenized.ofSource source).tokens.map (·.kind) := by
  rw [sourceKinds, tokenize, List.dropLast_concat]

theorem at_ofSource (source : String) :
    (Cursor.ofSource source).At (sourceKinds source) := by
  refine ⟨rfl, ?_⟩
  rw [sourceKinds_eq]
  rfl

theorem parse_eq_ok_iff {source : String} {statements : List Call} :
    parse source = .ok statements ↔
      ∃ after, Parser.program (.ofSource source) = .ok statements after := by
  rw [parse]
  cases Parser.program (.ofSource source) with
  | ok found after =>
    constructor
    · rintro ⟨⟩
      exact ⟨after, rfl⟩
    · rintro ⟨_, ⟨⟩⟩
      rfl
  | error error after =>
    constructor
    · rintro ⟨⟩
    · rintro ⟨_, ⟨⟩⟩

theorem programForm_of_parse {source : String} {statements : List Call}
    (h : parse source = .ok statements) :
    ProgramForm (sourceKinds source) (statements.map Call.eraseSpans) := by
  obtain ⟨after, hprogram⟩ := parse_eq_ok_iff.mp h
  have hsound := Parser.program_sound (at_ofSource source).ends hprogram
  rwa [(at_ofSource source).kinds_eq] at hsound

theorem exists_parse_of_programForm {source : String} {statements : List Call}
    (h : ProgramForm (sourceKinds source) statements) :
    ∃ parsed, parse source = .ok parsed ∧ parsed.map Call.eraseSpans = statements := by
  obtain ⟨parsed, after, hprogram, herase, -⟩ := Parser.program_complete h (at_ofSource source)
  exact ⟨parsed, parse_eq_ok_iff.mpr ⟨after, hprogram⟩, herase⟩

/-- The kinds of tokens tell the tree: the reader of scripts is a function. -/
theorem ProgramForm.unique {kinds : List TokenKind} {first second : List Call}
    (hfirst : ProgramForm kinds first) (hsecond : ProgramForm kinds second) : first = second := by
  have hat : Cursor.At ⟨kinds.map (⟨·, default⟩), ⟨.endOfInput, default⟩, default⟩ kinds := by
    refine ⟨rfl, ?_⟩
    rw [Cursor.kinds, List.map_map]
    exact List.map_id kinds
  obtain ⟨parsed, after, hprogram, rfl, -⟩ := Parser.program_complete hfirst hat
  obtain ⟨parsed', after', hprogram', rfl, -⟩ := Parser.program_complete hsecond hat
  rw [hprogram] at hprogram'
  cases hprogram'
  rfl

/-- So do those of an expression, which a statement may have as its only argument. -/
theorem ExprForm.unique {kinds : List TokenKind} {first second : Expr}
    (hfirst : ExprForm kinds first) (hsecond : ExprForm kinds second) : first = second := by
  have hprogram {expr : Expr} (h : ExprForm kinds expr) :
      ProgramForm (callKinds "" "" kinds ++ [.punctuation .semicolon] ++ [])
        [⟨"", "", [⟨none, expr, default⟩], default⟩] :=
    .cons (.call (.arguments (.last (.positional h)))) .nil
  cases (hprogram hfirst).unique (hprogram hsecond)
  rfl

theorem tidy_of_parse {source : String} {statements : List Call}
    (h : parse source = .ok statements) : Tidy (sourceKinds source) :=
  tidy_of_programForm (programForm_of_parse h)

/-- The parser accepts its grammar and gives the tree of the derivation, which is the only one. No
token that is an error is accepted; a comma may stand behind the last item of an array and the last
member of an object, but not in front of a closing parenthesis. Depth and number are not bounded:
all bounds above the number of tokens give the same result. -/
theorem parse_exact (source : String) :
    (∀ statements, (∃ parsed, parse source = .ok parsed ∧ parsed.map Call.eraseSpans = statements) ↔
      ProgramForm (sourceKinds source) statements) ∧
    (∀ kinds first second, ProgramForm kinds first → ProgramForm kinds second → first = second) ∧
    (∀ lexical, .invalid lexical ∈ sourceKinds source → ∃ error, parse source = .error error) ∧
    (∀ kinds items, Separated ExprForm kinds items →
      ExprForm (arrayKinds (kinds ++ [.punctuation .comma])) (.array items default)) ∧
    (∀ kinds members, Separated (MemberForm ExprForm) kinds members →
      ExprForm (objectKinds (kinds ++ [.punctuation .comma])) (.object members default)) ∧
    ([.punctuation .comma, .punctuation .rightParen] <:+: sourceKinds source →
      ∃ error, parse source = .error error) ∧
    ∀ depth count, (sourceKinds source).length < depth → (sourceKinds source).length < count →
      Parser.program (.ofSource source) =
        Parser.untilEnd (Parser.statement (Parser.expression depth)) count (.ofSource source) := by
  have hat := at_ofSource source
  refine ⟨fun statements => ⟨?_, exists_parse_of_programForm⟩, fun _ _ _ => ProgramForm.unique,
    fun lexical hlexical => ?_, fun _ _ h => .array (.trailing h),
    fun _ _ h => .object (.trailing h), fun hcomma => ?_, fun depth count hdepth hcount => ?_⟩
  · rintro ⟨parsed, hparsed, rfl⟩
    exact programForm_of_parse hparsed
  · cases hparse : parse source with
    | ok statements => exact absurd hlexical ((tidy_of_parse hparse).valid lexical)
    | error error => exact ⟨error, rfl⟩
  · cases hparse : parse source with
    | ok statements =>
      have hpair := List.IsChain.infix (tidy_of_parse hparse).apart hcomma
      exact absurd rfl ((List.isChain_cons_cons.mp hpair).1 rfl)
    | error error => exact ⟨error, rfl⟩
  · rw [← hat.length_rest] at hdepth hcount
    exact Parser.program_eq_of_lt hat.ends hdepth hcount

end MigrationScript
