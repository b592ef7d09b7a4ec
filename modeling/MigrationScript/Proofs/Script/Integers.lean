import MigrationScript.Proofs.Meaning.Received
import MigrationScript.Proofs.Token.Integer
import MigrationScript.Proofs.Token.Spelling
import MigrationScript.Proofs.Tree.Parse
import MigrationScript.Proofs.Tree.Seats

namespace MigrationScript

open Lexer

/-- Between the two texts the grammar wants an expression, and the script is then the program. -/
def ExpressionPlace (front back : List Char) (program : Expr → List Call) : Prop :=
  ∀ kinds expr, ExprForm kinds expr →
    ProgramForm (kindsOf front ++ (kinds ++ kindsOf back)) (program expr)

namespace IntegerText

variable {number : IntegerText} {front back : List Char}

/-! ### The tree of the integer -/

/-- The integer as a value of the tree. -/
def constant (number : IntegerText) : Constant :=
  .integer number.value number.isLong

theorem sourceKinds_source (h : number.StandsBetween front back) :
    sourceKinds (number.source front back) =
      kindsOf front ++ (number.kinds ++ kindsOf back) := by
  have htokens := tokensFrom_source h
  rw [sourceKinds_eq, Tokenized.ofSource, htokens, List.map_append, List.map_append,
    map_kind_tokensFrom, map_kind_tokensFrom, map_kind_tokens]

theorem numberForm_kind (hfits : number.magnitude < UInt64.size) :
    NumberForm number.kind (.integer number.magnitude number.isLong) := by
  unfold kind
  rw [if_pos hfits]
  cases number.isLong with
  | true => exact .long
  | false => exact .integer

/-- The grammar derives the integer from its tokens. -/
theorem exprForm_kinds (hfits : number.magnitude < UInt64.size) :
    ExprForm number.kinds (.constant number.constant default) := by
  have hnumber := numberForm_kind hfits
  unfold kinds constant value
  cases number.isNegative with
  | true => exact .negative hnumber
  | false => exact .number hnumber

/-- Where the grammar wants an expression the script is read, and the integer is this expression. -/
theorem exists_parse_of_place (h : number.StandsBetween front back)
    (hfits : number.magnitude < UInt64.size) {program : Expr → List Call}
    (hplace : ExpressionPlace front back program) :
    ∃ statements, parse (number.source front back) = .ok statements ∧
      statements.map Call.eraseSpans = program (.constant number.constant default) := by
  apply exists_parse_of_programForm
  rw [sourceKinds_source h]
  exact hplace _ _ (exprForm_kinds hfits)

/-- The only expression that takes the bytes of the integer is the integer. -/
theorem eq_constant_of_span_eq (h : number.StandsBetween front back)
    (hfits : number.magnitude < UInt64.size) {statements : List Call} {statement : Call}
    {value : Expr} (hparse : parse (number.source front back) = .ok statements)
    (hmem : statement ∈ statements) (hwithin : Within (.call statement) (.expr value))
    (hspan : value.span = number.span front) :
    value = .constant number.constant (number.span front) := by
  obtain ⟨run, hrun, hsits, -⟩ := exists_sits_of_within hparse hmem hwithin
  have hown : number.tokens (width front) <:+:
      (Tokenized.ofSource (number.source front back)).tokens := by
    rw [Tokenized.ofSource, tokensFrom_source h, ← List.append_assoc]
    exact ⟨_, _, rfl⟩
  -- The tokens of the expression are those of the integer, as they take the same bytes.
  have hhull : hull run = hull (number.tokens (width front)) :=
    hsits.span_eq.symm.trans (hspan.trans hull_tokens.symm)
  obtain rfl := (spaced_tokensFrom 0 (number.source front back).toList).run_eq hrun hown
    hsits.ne_nil tokens_ne_nil hhull
  have hform : ExprForm (List.map (·.kind) (number.tokens (width front))) value.eraseSpans :=
    hsits.spelt
  rw [map_kind_tokens] at hform
  have herase := hform.unique (exprForm_kinds hfits)
  cases value <;> cases herase
  cases hspan
  rfl

/-! ### Integers that are too large -/

/-- The token of an integer that is no word is an error. -/
theorem exists_invalid_mem_kinds (hlarge : UInt64.size ≤ number.magnitude) :
    ∃ error, .invalid error ∈ number.kinds := by
  unfold kinds kind
  rw [if_neg (Nat.not_lt.mpr hlarge)]
  cases number.isNegative with
  | true => exact ⟨_, List.mem_cons_of_mem _ (List.mem_singleton_self _)⟩
  | false => exact ⟨_, List.mem_singleton_self _⟩

theorem exists_parse_error (h : number.StandsBetween front back)
    (hlarge : UInt64.size ≤ number.magnitude) :
    ∃ error, parse (number.source front back) = .error error := by
  obtain ⟨lexical, hlexical⟩ := exists_invalid_mem_kinds hlarge
  cases hparse : parse (number.source front back) with
  | error error => exact ⟨error, rfl⟩
  | ok statements =>
    refine absurd ?_ ((tidy_of_parse hparse).valid lexical)
    rw [sourceKinds_source h]
    exact List.mem_append_right _ (List.mem_append_left _ hlexical)

/-! ### The integer as an argument -/

/-- A parameter of the statement, or of the call that declares a column of its table, is given the
integer. -/
structure IsGiven (number : IntegerText) (front : List Char) (statement : Call)
    (column : Option Nat) (bound : Bound) (name : String) : Prop where
  feeds : bound.Feeds statement column
  given : ∃ value, bound.value? name = some value ∧ value.span = number.span front

theorem IsGiven.value?_eq {statements : List Call} {statement : Call} {column : Option Nat}
    {bound : Bound} {name : String} (hgiven : number.IsGiven front statement column bound name)
    (h : number.StandsBetween front back) (hfits : number.magnitude < UInt64.size)
    (hparse : parse (number.source front back) = .ok statements) (hmem : statement ∈ statements) :
    bound.value? name = some (.constant number.constant (number.span front)) := by
  obtain ⟨value, hvalue, hspan⟩ := hgiven.given
  have hwithin := hgiven.feeds.isOf.within_value hvalue
  rw [hvalue, eq_constant_of_span_eq h hfits hparse hmem hwithin hspan]

end IntegerText

/-- An integer may have any number of digits, a minus in front and the mark of a long integer
behind. From `2 ^ 64` on, the source is no script and nothing is recorded. Below, where the grammar
wants an expression the script can be read, and the integer is this expression with its exact value.

If a parameter that takes numbers is given the integer, it receives exactly this number, or there is
a reason for which the form of the parameter has no such number. What the statement records holds
what was received; it records nothing else for the parameter. And if with a zero instead of the
integer the statement would be recorded, then it is recorded with the integer, or fails for that
reason where the integer stands. -/
theorem integers_exact_or_rejected (number : IntegerText) {front back : List Char}
    (h : number.StandsBetween front back) :
    (2 ^ 64 ≤ number.magnitude → ∃ error, parse (number.source front back) = .error error ∧
      ∀ builder recorded, run builder (number.source front back) recorded =
        (recorded, .error (.ofParseError error))) ∧
    (number.magnitude < 2 ^ 64 →
      (∀ program, ExpressionPlace front back program →
        ∃ statements, parse (number.source front back) = .ok statements ∧
          statements.map Call.eraseSpans =
            program (.constant (.integer number.value number.isLong) default)) ∧
      ∀ statements, parse (number.source front back) = .ok statements →
        ∀ statement ∈ statements, ∀ column bound name slot,
          number.IsGiven front statement column bound name → Slot.ofParameter? name = some slot →
            ∃ outcome, slot.Receives name number.value number.isLong outcome ∧
              (∃ value, bound.value? name = some value ∧
                slot.read name value = Slot.located (number.span front) outcome) ∧
              (∀ builder operation, statement.Appends builder operation →
                ∃ held, outcome = .ok held ∧ operation.Holds column name held) ∧
              ∀ builder other operation, bound.Zeroed name statement other →
                other.Appends builder operation →
                  statement.RecordsNumber builder column name (number.span front) outcome) := by
  refine ⟨fun hlarge => ?_, fun hfits => ⟨fun program => number.exists_parse_of_place h hfits, ?_⟩⟩
  · obtain ⟨error, hparse⟩ := number.exists_parse_error h hlarge
    exact ⟨error, hparse, fun builder recorded => run_of_parse_error hparse recorded⟩
  intro statements hparse statement hmem column bound name slot hgiven hslot
  have hvalue := hgiven.value?_eq h hfits hparse hmem
  obtain ⟨outcome, hreceives, hread⟩ :=
    Slot.exists_receives name number.value number.isLong (number.span front) slot
  refine ⟨outcome, hreceives, ⟨_, hvalue, hread⟩, fun builder operation happends => ?_,
    fun builder other operation hzeroed hother => ?_⟩
  · exact hgiven.feeds.exists_received hslot hvalue hread (Call.appends_iff_operation.mp happends)
  · exact hzeroed.records hgiven.feeds hslot hvalue hread hother

/-- The least integer that a long parameter receives. -/
def IntegerText.least : IntegerText where
  isNegative := true
  digits := "9223372036854775808".toList
  mark := none
  digits_ne_nil := by decide
  all_digits := by decide
  mark_eq := fun _ hmark => absurd hmark (Option.not_mem_none _)

/-- The statement `mb.RestartSequence(name: "S", with: -9223372036854775808);` with another value
instead of the integer. -/
def restartWith (value : Int) : Call :=
  ⟨"mb", "RestartSequence", [⟨some "name", .constant (.string "S") ⟨25, 28⟩, ⟨19, 28⟩⟩,
    ⟨some "with", .constant (.integer value false) ⟨36, 56⟩, ⟨30, 56⟩⟩], ⟨0, 57⟩⟩

/-- The text in front of the integer. -/
def restartFront : List Char :=
  "mb.RestartSequence(name: \"S\", with: ".toList

/-- What the statement gives to its parameters. -/
def restartBound (value : Int) : Bound :=
  ⟨restartWith value, [("name", .constant (.string "S") ⟨25, 28⟩),
    ("with", .constant (.integer value false) ⟨36, 56⟩)]⟩

theorem differs_restartBound (value : Int) :
    (restartBound value).Differs "with" (restartBound 0) := by
  refine ⟨fun parameter hname => ?_, _, rfl⟩
  have hne : (parameter == "with") = false := beq_eq_false_iff_ne.mpr hname
  simp only [restartBound, Bound.value?, List.lookup_cons, hne]

theorem integers_exact_or_rejected_least :
    IntegerText.least.StandsBetween restartFront ");".toList ∧
      parse "mb.RestartSequence(name: \"S\", with: -9223372036854775808);" =
        .ok [restartWith (-2 ^ 63)] ∧
      (restartWith (-2 ^ 63)).RecordsNumber "mb" none "with" ⟨36, 56⟩
        (.ok (.long Int64.minValue)) := by
  have hstands : IntegerText.least.StandsBetween restartFront ");".toList :=
    ⟨by decide +kernel, apart_close⟩
  have hfits : IntegerText.least.magnitude < 2 ^ 64 := by decide +kernel
  have hspan : IntegerText.least.span restartFront = ⟨36, 56⟩ := by decide +kernel
  have hparse : parse "mb.RestartSequence(name: \"S\", with: -9223372036854775808);" =
      .ok [restartWith (-2 ^ 63)] := by
    with_unfolding_all rfl
  have hgiven : IntegerText.least.IsGiven restartFront (restartWith (-2 ^ 63)) none
      (restartBound (-2 ^ 63)) "with" :=
    ⟨@Bound.Feeds.statement _ .restartSequence _ rfl rfl, _, rfl, hspan.symm⟩
  have hzeroed : (restartBound (-2 ^ 63)).Zeroed "with" (restartWith (-2 ^ 63)) (restartWith 0) :=
    @Bound.Zeroed.statement _ _ _ .restartSequence _ _ ⟨rfl, rfl⟩ rfl rfl rfl
      (differs_restartBound _)
  have hzero : (restartWith 0).Appends "mb" (.restartSequence ⟨"S", none, 0⟩) :=
    Call.appends_of_operation rfl
  obtain ⟨-, hstatements⟩ := (integers_exact_or_rejected IntegerText.least hstands).2 hfits
  obtain ⟨outcome, hreceives, -, -, hrecords⟩ := hstatements _ hparse _
    (List.mem_singleton_self _) none _ "with" .long hgiven rfl
  refine ⟨hstands, hparse, ?_⟩
  have hrecorded := hrecords "mb" _ _ hzeroed hzero
  rw [hspan] at hrecorded
  cases hreceives with
  | @long word hvalue =>
    have hword : word = Int64.minValue := Int64.toInt.inj hvalue
    rwa [hword] at hrecorded
  | longRange hrange => exact absurd (by decide +kernel) hrange

end MigrationScript
