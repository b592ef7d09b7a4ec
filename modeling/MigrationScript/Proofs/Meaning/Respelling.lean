import Mathlib.Logic.Relation
import MigrationScript.Proofs.Meaning.Respelled
import MigrationScript.Proofs.Meaning.Run
import MigrationScript.Proofs.Meaning.Spans

namespace MigrationScript

open MigrationScript.Bound

/-- The arguments of a call with the given parameters are spelled in another way. -/
structure Call.RespellsAt (parameters : List Parameter) (identifier : Option String)
    (first second : Call) : Prop where
  target_eq : second.target = first.target
  method_eq : second.method = first.method
  arguments : Respelled parameters identifier first.arguments second.arguments

/-- The parameters of the calls that declare constraints. -/
def constraintParameters (method : String) : List Parameter :=
  if method = "ForeignKey" then Parameter.declaredForeignKey else Parameter.declaredKey

/-- A call in the function of an argument is spelled in another way: the declaration of a column,
whose identifier is the name that it has by default, or that of a constraint. -/
inductive Expr.Respells : Expr → Expr → Prop
  | column {before after : List Member} {identifier : String} {first second : Call}
      (h : first.RespellsAt Parameter.declaredColumn (some identifier) second)
      (parameter : String) (span span' span'' : Span) :
      Expr.Respells
        (.function parameter (.object (before ++ .named identifier (.call first) span :: after) span')
          span'')
        (.function parameter (.object (before ++ .named identifier (.call second) span :: after) span')
          span'')
  | constraint {before after : List Call} {first second : Call}
      (hmethod : first.method ∈ ["PrimaryKey", "ForeignKey", "Unique"])
      (h : first.RespellsAt (constraintParameters first.method) none second)
      (parameter : String) (span : Span) :
      Expr.Respells (.block parameter (before ++ first :: after) span)
        (.block parameter (before ++ second :: after) span)

/-- A statement, or a call in a function of it, is spelled in another way. -/
inductive Call.Respells : Call → Call → Prop
  | statement {kind : Kind} {first second : Call} (hkind : Kind.ofMethod? first.method = some kind)
      (h : first.RespellsAt kind.parameters none second) : Call.Respells first second
  | nested {before after : List Argument} {name : Option String} {value value' : Expr}
      (h : value.Respells value') (target method : String) (span span' : Span) :
      Call.Respells ⟨target, method, before ++ ⟨name, value, span⟩ :: after, span'⟩
        ⟨target, method, before ++ ⟨name, value', span⟩ :: after, span'⟩

/-- Both statements append the same operation, or both fail. -/
def SameRecording (builder : String) (first second : Call) : Prop :=
  (∃ operation, first.Appends builder operation ∧ second.Appends builder operation) ∨
    ((∃ error, first.FailsWith builder error) ∧ ∃ error, second.FailsWith builder error)

theorem Kind.regular_parameters (kind : Kind) : Regular kind.parameters := by
  cases kind <;> exact ⟨by decide, by decide, by decide⟩

theorem regular_declaredColumn : Regular Parameter.declaredColumn :=
  ⟨by decide, by decide, by decide⟩

namespace Call

variable {parameters : List Parameter} {identifier : Option String} {first second : Call}

theorem RespellsAt.alike_addresses (h : first.RespellsAt parameters identifier second)
    (target : String) : Alike Eq (first.addresses target) (second.addresses target) := by
  unfold addresses
  rw [h.target_eq]
  split
  · exact .rfl
  · exact .error

end Call

namespace Table

variable {table : Table} {declared : DeclaredColumns} {identifier : String} {first second : Call}

theorem alike_column (h : first.RespellsAt Parameter.declaredColumn (some identifier) second)
    (parameter : String) :
    Alike Eq (table.column parameter identifier first) (table.column parameter identifier second) := by
  unfold column
  refine .bind_eq (h.alike_addresses parameter) fun _ => ?_
  rw [h.method_eq]
  split
  · exact .error
  · refine h.arguments.alike_bind regular_declaredColumn (fun one two hmatches => ?_)
      fun hcolumns => absurd hcolumns (by decide)
    refine .bind hmatches.columnName fun one two hname => ?_
    rw [hname]
    refine .bind_eq (hmatches.required Expr.refuses_toText (by decide)) fun type => ?_
    exact hmatches.columnOptions _

theorem exists_error_of_array {bound : Bound} {items : List Expr} {span : Span}
    (h : bound.value? "columns" = some (.array items span)) :
    ∃ error, bound.required Expr.toFunction "columns" = .error error := by
  unfold Bound.required
  rw [h]
  exact ⟨_, rfl⟩

theorem alike_key (h : Respelled Parameter.declaredKey none first.arguments second.arguments) :
    Alike Eq (table.key declared first) (table.key declared second) := by
  unfold key
  refine h.alike_bind ⟨by decide, by decide, by decide⟩ (fun one two hmatches => ?_)
    fun _ _ bound items span harray => ?_
  · refine .bind_eq hmatches.requiredName fun name => ?_
    refine .bind hmatches.function fun one two hsame => ?_
    exact .bind_eq (hsame.selection declared) fun columns => .rfl
  · obtain ⟨_, hfails⟩ := exists_error_of_array harray
    rw [hfails]
    cases bound.required Expr.toText "name" <;> exact ⟨_, rfl⟩

theorem alike_foreignKey
    (h : Respelled Parameter.declaredForeignKey none first.arguments second.arguments) :
    Alike Eq (table.foreignKey declared first) (table.foreignKey declared second) := by
  unfold foreignKey
  refine h.alike_bind ⟨by decide, by decide, by decide⟩ (fun one two hmatches => ?_)
    fun _ _ bound items span harray => ?_
  · refine .bind_eq hmatches.requiredName fun name => ?_
    refine .bind hmatches.function fun one two hsame => ?_
    exact .bind_eq (hsame.selection declared) fun columns => hmatches.reference _
  · obtain ⟨_, hfails⟩ := exists_error_of_array harray
    rw [hfails]
    cases bound.required Expr.toText "name" <;> exact ⟨_, rfl⟩

theorem alike_addConstraint (hmethod : first.method ∈ ["PrimaryKey", "ForeignKey", "Unique"])
    (h : first.RespellsAt (constraintParameters first.method) none second) (parameter : String) :
    Alike Eq (addConstraint parameter declared table first)
      (addConstraint parameter declared table second) := by
  have harguments := h.arguments
  unfold addConstraint
  refine .bind_eq (h.alike_addresses parameter) fun _ => ?_
  rw [h.method_eq]
  generalize first.method = method at harguments hmethod
  simp only [List.mem_cons, List.not_mem_nil, or_false] at hmethod
  obtain rfl | rfl | rfl := hmethod
  · cases table.primaryKey.isSome with
    | true => exact .error
    | false => exact .bind_eq (alike_key harguments) fun key => .rfl
  · exact .bind_eq (alike_foreignKey harguments) fun key => .rfl
  · exact .bind_eq (alike_key harguments) fun key => .rfl

end Table

namespace Expr.Respells

variable {first second : Expr}

theorem isFunction (h : first.Respells second) : first.IsFunction ∧ second.IsFunction := by
  cases h <;> exact ⟨trivial, trivial⟩

/-- A function with a call that is spelled in another way declares and selects the same. -/
theorem sameFunction (h : first.Respells second) : SameFunction first second := by
  cases h with
  | @column before after identifier one two h parameter =>
    refine ⟨fun table => ?_, fun _ _ => .error, fun declared => ?_⟩
    · refine alike_foldlM (fun declared => ?_) []
      exact .bind_eq (Table.alike_column h parameter) fun column => .rfl
    · exact alike_mapM .error
  | constraint hmethod h parameter =>
    refine ⟨fun _ => .error, fun table declared => ?_, fun _ => .error⟩
    exact alike_foldlM (fun table => Table.alike_addConstraint hmethod h parameter) table

end Expr.Respells

/-! ### Calls in the arguments of a statement -/

/-- Two values of which one may hold a call that is spelled in another way. -/
def Expr.Near (first second : Expr) : Prop :=
  first = second ∨ first.Respells second

/-- Two arguments for the same parameter, of which one may hold a call that is spelled in another
way. -/
structure Argument.Near (first second : Argument) : Prop where
  name_eq : first.name = second.name
  value : first.value.Near second.value

theorem Argument.Near.related {first second : Argument} (h : first.Near second) :
    first.Related Expr.Near second :=
  ⟨h.name_eq, h.value⟩

namespace Bound

/-- The same for values under the names of their parameters. -/
def NearEntries (first second : List (String × Expr)) : Prop :=
  List.Forall₂ (fun one two => one.1 = two.1 ∧ one.2.Near two.2) first second

theorem near_entries {arguments others : List Argument} {parameters : List Parameter}
    (h : List.Forall₂ Argument.Near arguments others) :
    NearEntries (entries parameters arguments) (entries parameters others) :=
  related_entries (h.imp fun _ _ => Argument.Near.related)

theorem NearEntries.value? {first second : Bound} (name : String)
    (h : NearEntries first.given second.given) :
    first.value? name = second.value? name ∨
      ∃ one two, first.value? name = some one ∧ second.value? name = some two ∧
        one.Respells two := by
  have hlookup := RelatedEntries.lookup h name
  unfold Bound.value?
  generalize first.given.lookup name = one at hlookup
  generalize second.given.lookup name = two at hlookup
  cases hlookup with
  | none => exact .inl rfl
  | @some value value' hvalue =>
    obtain rfl | hrespells := hvalue
    · exact .inl rfl
    · refine .inr ⟨value, value', ?_, ?_, hrespells⟩
      · cases hrespells <;> rfl
      · cases hrespells <;> rfl

theorem alike_ofCall_near {parameters : List Parameter} {identifier : Option String} {one two : Call}
    (hnodup : (parameters.map (·.name)).Nodup)
    (h : List.Forall₂ Argument.Near one.arguments two.arguments) :
    Alike (Matches identifier) (ofCall one parameters) (ofCall two parameters) := by
  have hnear : NearEntries (filled one parameters).given (filled two parameters).given :=
    near_entries h
  refine alike_ofCall hnodup (fills_related_iff (h.imp fun _ _ => Argument.Near.related)) (fun _ parameter _ _ => ?_)
    fun _ => .of_sameArgument fun name => ?_
  · obtain heq | ⟨_, _, hone, htwo, -⟩ := hnear.value? parameter.name
    · rw [heq]
    · rw [hone, htwo]
      rfl
  · obtain heq | ⟨_, _, hone, htwo, hrespells⟩ := hnear.value? name
    · rw [heq]
      exact .same _
    · rw [hone, htwo]
      exact .function hrespells.isFunction.1 hrespells.isFunction.2 hrespells.sameFunction

end Bound

/-! ### Statements -/

namespace Call.Respells

variable {builder : String} {first second : Call}

theorem exists_error_toOperation {kind : Kind} (hcolumns : "columns" ∈ kind.parameters.map (·.name))
    (hcolumn : "column" ∉ kind.parameters.map (·.name)) {bound : Bound} {items : List Expr}
    {span : Span} (harray : bound.value? "columns" = some (.array items span)) :
    ∃ error, bound.toOperation kind = .error error := by
  have hkind : kind = .createTable := by
    cases kind <;> first | rfl | exact absurd hcolumns (by decide) | exact absurd (by decide) hcolumn
  subst hkind
  obtain ⟨_, hfails⟩ := Table.exists_error_of_array harray
  unfold toOperation
  cases bound.optional Expr.toText "schema" with
  | error => exact ⟨_, rfl⟩
  | ok schema =>
    change ∃ error, (Table.ofBound bound >>= fun table => pure (Operation.createTable table)) = _
    unfold Table.ofBound
    rw [hfails]
    cases bound.required Expr.toText "name" with
    | error => exact ⟨_, rfl⟩
    | ok name => cases bound.optional Expr.toText "schema" <;> exact ⟨_, rfl⟩

/-- A statement that is spelled in another way means the same operation. -/
theorem alike_operation (h : first.Respells second) :
    Alike Eq (first.operation builder) (second.operation builder) := by
  cases h with
  | @statement kind _ _ hkind h =>
    unfold operation
    refine .bind_eq (h.alike_addresses builder) fun _ => ?_
    rw [h.method_eq, hkind]
    exact h.arguments.alike_bind kind.regular_parameters
      (fun one two hmatches => hmatches.toOperation kind)
      fun hcolumns hcolumn bound items span => exists_error_toOperation hcolumns hcolumn
  | @nested before after name value value' h target method span span' =>
    have hnear : List.Forall₂ Argument.Near (before ++ ⟨name, value, span⟩ :: after)
        (before ++ ⟨name, value', span⟩ :: after) := by
      have hrefl (arguments : List Argument) : List.Forall₂ Argument.Near arguments arguments :=
        List.forall₂_same.mpr fun argument _ => ⟨rfl, .inl rfl⟩
      exact List.rel_append (hrefl before) (.cons ⟨rfl, .inr h⟩ (hrefl after))
    unfold operation
    refine .bind_eq ?_ fun _ => ?_
    · unfold addresses
      split
      · exact .rfl
      · exact .error
    · cases hkind : Kind.ofMethod? method with
      | none => exact .error
      | some kind =>
        exact (alike_ofCall_near kind.nodup_parameters hnear).bind
          fun one two hmatches => hmatches.toOperation kind

/-- Spellings of one another, by any steps, mean the same operation. -/
theorem alike_operation_of_eqvGen (h : Relation.EqvGen Call.Respells first second) :
    Alike Eq (first.operation builder) (second.operation builder) := by
  induction h with
  | rel _ _ h => exact h.alike_operation
  | refl => exact .rfl
  | symm _ _ _ ih => exact ih.symm
  | trans _ _ _ _ _ hfirst hsecond => exact hfirst.trans hsecond

end Call.Respells

theorem Alike.moved {α : Type} {change : Span → Span} {first second : Except ScriptError α}
    (h : Alike Eq (moved change first) (moved change second)) : Alike Eq first second := by
  cases first with
  | ok one =>
    cases second with
    | ok two =>
      cases h with
      | ok heq => exact .ok heq
    | error => cases h
  | error =>
    cases second with
    | ok => cases h
    | error => exact .error

theorem sameRecording_of_alike {builder : String} {first second : Call}
    (h : Alike Eq (first.operation builder) (second.operation builder)) :
    SameRecording builder first second := by
  generalize hone : first.operation builder = one at h
  generalize htwo : second.operation builder = two at h
  cases h with
  | ok heq =>
    subst heq
    exact .inl ⟨_, Call.appends_of_operation hone, Call.appends_of_operation htwo⟩
  | error =>
    exact .inr ⟨⟨_, Call.failsWith_of_operation hone⟩, _, Call.failsWith_of_operation htwo⟩

/-- A statement and its spellings, wherever they are written, all fail or all record the same
operation. -/
theorem sameRecording_of_respells {builder : String} {first second : Call}
    (h : Relation.EqvGen Call.Respells first.eraseSpans second.eraseSpans) :
    SameRecording builder first second := by
  have halike : Alike Eq (first.eraseSpans.operation builder)
      (second.eraseSpans.operation builder) := Call.Respells.alike_operation_of_eqvGen h
  rw [Call.operation_mapSpans, Call.operation_mapSpans] at halike
  exact sameRecording_of_alike halike.moved

section Instances

def typeArgument : Argument :=
  ⟨some "type", .constant (.string "int") default, default⟩

def identifierAsName : Argument :=
  ⟨some "name", .constant (.string "Id") default, default⟩

def nullSchema : Argument :=
  ⟨some "schema", .constant .null default, default⟩

def declaration (further : List Argument) : Call :=
  ⟨"t", "Column", typeArgument :: further, default⟩

/-- A table of one column, with some further arguments for the column and for the table. -/
def oneColumnTable (forColumn forTable : List Argument) : Call :=
  let columns : Expr := .function "t"
    (.object [.named "Id" (.call (declaration forColumn)) default] default) default
  ⟨"mb", "CreateTable",
    ⟨none, .constant (.string "T") default, default⟩ :: ⟨some "columns", columns, default⟩ :: forTable,
    default⟩

theorem sameRecording_oneColumnTable :
    SameRecording "mb" (oneColumnTable [] []) (oneColumnTable [identifierAsName] [nullSchema]) := by
  have hschema : Respelled Parameter.table none (oneColumnTable [] []).arguments
      (oneColumnTable [] [nullSchema]).arguments :=
    @Respelled.null _ _ _ (.optional "schema") (by decide) (by decide) default default
  have hname : (declaration []).RespellsAt Parameter.declaredColumn (some "Id")
      (declaration [identifierAsName]) :=
    ⟨rfl, rfl, .default (by decide) (.name rfl rfl default) (by decide) default⟩
  have hstatement : (oneColumnTable [] []).Respells (oneColumnTable [] [nullSchema]) :=
    .statement rfl ⟨rfl, rfl, hschema⟩
  have hcolumn : (oneColumnTable [] [nullSchema]).Respells
      (oneColumnTable [identifierAsName] [nullSchema]) :=
    @Call.Respells.nested [_] [nullSchema] _ _ _
      (@Expr.Respells.column [] [] _ _ _ hname "t" default default default) _ _ _ _
  exact sameRecording_of_respells (.trans _ _ _ (.rel _ _ hstatement) (.rel _ _ hcolumn))

/-- A primary key of which a column is given in one of two ways, and then `null` again. -/
def twiceGivenKey (column : Argument) : Call :=
  ⟨"mb", "AddPrimaryKey",
    [⟨some "name", .constant (.string "PK") default, default⟩,
      ⟨some "table", .constant (.string "T") default, default⟩, column,
      ⟨some "column", .constant .null default, default⟩], default⟩

/-- A column that is given twice cannot be given as an array of one instead. -/
theorem not_sameRecording_twiceGivenKey :
    "columns" ∉ givenNames Parameter.key
        (twiceGivenKey ⟨some "column", .constant (.string "A") default, default⟩).arguments ∧
      ¬SameRecording "mb"
        (twiceGivenKey ⟨some "column", .constant (.string "A") default, default⟩)
        (twiceGivenKey
          ⟨some "columns", .array [.constant (.string "A") default] default, default⟩) := by
  refine ⟨by decide, ?_⟩
  have hfirst : ∃ error, (twiceGivenKey
      ⟨some "column", .constant (.string "A") default, default⟩).FailsWith "mb" error :=
    ⟨_, Call.failsWith_of_operation rfl⟩
  have hsecond : ∃ operation, (twiceGivenKey
      ⟨some "columns", .array [.constant (.string "A") default] default, default⟩).Appends "mb"
        operation :=
    ⟨_, Call.appends_of_operation rfl⟩
  obtain ⟨error, hfails⟩ := hfirst
  obtain ⟨operation, happends⟩ := hsecond
  rintro (⟨_, hfirst, -⟩ | ⟨-, _, hsecond⟩)
  · cases (hfirst.execute_eq []).symm.trans (hfails [])
  · cases (happends.execute_eq []).symm.trans (hsecond [])

end Instances

end MigrationScript
