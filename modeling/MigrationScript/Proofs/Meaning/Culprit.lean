import MigrationScript.Meaning.Statement
import MigrationScript.Proofs.Meaning.Binding
import MigrationScript.Proofs.Tree.Node

/-!
# The nodes at fault

For each cause of an error, the node of the statement at which it points is told from the tree,
without running anything.
-/

namespace MigrationScript

/-! ### Values and what is wanted of them -/

/-- The value is of the wanted kind. -/
def Wanted.admits : Wanted → Expr → Bool
  | .string, .constant (.string _) _ => true
  | .bool, .constant (.bool _) _ => true
  | .int, .constant (.integer _ isLong) _ => !isLong
  | .long, .constant (.integer _ _) _ => true
  | .defaultValue, .constant (.bool _) _ | .defaultValue, .constant (.string _) _
  | .defaultValue, .constant (.double _) _ | .defaultValue, .constant (.integer _ _) _ => true
  | .defaultValue, .path ["double", name] _ => (Expr.namedDouble? name).isSome
  | .referentialAction, .path ["ReferentialAction", _] _ => true
  | .stringArray, .array _ _ => true
  | .function, .function _ _ _ => true
  | .function, .block _ _ _ => true
  | _, _ => false

def IntegerWidth.fits : IntegerWidth → Int → Bool
  | .int, number => (int32? number).isSome
  | .long, number => (int64? number).isSome

/-- The parameters that take several texts. -/
def textsNames : List String :=
  ["columns", "referencedColumns"]

/-! ### Calls -/

/-- The statement itself, or a call within it that declares a column or a constraint, and the
parameters of its method. -/
inductive Takes (statement : Call) : Call → List Parameter → Prop
  | statement {kind : Kind} :
    Kind.ofMethod? statement.method = some kind → Takes statement statement kind.parameters
  | column {call : Call} : Within (.call statement) (.call call) → call.method = "Column" →
    Takes statement call Parameter.declaredColumn
  | key {call : Call} : Within (.call statement) (.call call) →
    call.method = "PrimaryKey" ∨ call.method = "Unique" →
    Takes statement call Parameter.declaredKey
  | foreignKey {call : Call} : Within (.call statement) (.call call) →
    call.method = "ForeignKey" → Takes statement call Parameter.declaredForeignKey

theorem Takes.within {statement call : Call} {parameters : List Parameter}
    (h : Takes statement call parameters) : Within (.call statement) (.call call) := by
  cases h with
  | statement => exact .self
  | column hwithin | key hwithin | foreignKey hwithin => exact hwithin

/-- A call of the statement whose arguments have been given to its parameters. -/
def Bound.IsOf (bound : Bound) (statement : Call) : Prop :=
  ∃ parameters, Takes statement bound.call parameters ∧
    add bound.call.method parameters [] parameters bound.call.arguments = .ok bound.given

/-- There is no value for the parameter, or none in the array that is given. -/
def Bound.Lacks (bound : Bound) (name : String) : Prop :=
  bound.value? name = none ∨ ∃ span, bound.value? name = some (.array [] span)

/-- Why an argument behind others is for none of the parameters. -/
inductive Surplus (method : String) (parameters : List Parameter) (before : List Argument) :
    Argument → ScriptCause → Prop
  | unknown {name : String} {value : Expr} {span : Span} : name ∉ parameters.map (·.name) →
    Surplus method parameters before ⟨some name, value, span⟩ (.unknownArgument method name)
  | duplicate {name : String} {value : Expr} {span : Span} :
    name ∈ Bound.givenNames parameters before →
    Surplus method parameters before ⟨some name, value, span⟩ (.duplicateArgument method name)
  | tooMany {value : Expr} {span : Span} : (∀ argument ∈ before, argument.name.isNone = true) →
    before.length = parameters.length →
    Surplus method parameters before ⟨none, value, span⟩ (.tooManyArguments method)
  | behindNamed {value : Expr} {span : Span} : (∃ argument ∈ before, argument.name.isSome = true) →
    Surplus method parameters before ⟨none, value, span⟩ (.positionalAfterNamed method)

/-! ### The node at fault -/

/-- The node of a statement at which an error of each cause points. -/
inductive Culprit (statement : Call) : ScriptCause → Node → Prop
  | unknownTarget {call : Call} {expected : String} :
    Within (.call statement) (.call call) → call.target ≠ expected →
    Culprit statement (.unknownTarget expected call.target) (.call call)
  | unknownMethod {call : Call} : Within (.call statement) (.call call) →
    Culprit statement (.unknownMethod call.method) (.call call)
  | surplus {call : Call} {parameters : List Parameter} {before behind : List Argument}
    {argument : Argument} {cause : ScriptCause} : Takes statement call parameters →
    call.arguments = before ++ argument :: behind →
    Surplus call.method parameters before argument cause →
    Culprit statement cause (.argument argument)
  | missingArgument {bound : Bound} {name : String} : bound.IsOf statement → bound.Lacks name →
    Culprit statement (.missingArgument bound.call.method name) (.call bound.call)
  | conflictingArguments {bound : Bound} {first second : String} : bound.IsOf statement →
    (bound.value? first).isSome = true → (bound.value? second).isSome = true →
    Culprit statement (.conflictingArguments bound.call.method first second) (.call bound.call)
  | mismatch {bound : Bound} {name : String} {wanted : Wanted} {value : Expr} :
    bound.IsOf statement → bound.value? name = some value → wanted.admits value = false →
    (wanted = .string → name ∉ textsNames) →
    Culprit statement (.typeMismatch name wanted) (.expr value)
  | element {bound : Bound} {name : String} {items : List Expr} {item : Expr} {span : Span} :
    bound.IsOf statement → bound.value? name = some (.array items span) → name ∈ textsNames →
    item ∈ items → Wanted.string.admits item = false →
    Culprit statement (.typeMismatch name .string) (.expr item)
  | outOfRange {bound : Bound} {name : String} {width : IntegerWidth} {number : Int}
    {isLong : Bool} {span : Span} : bound.IsOf statement →
    bound.value? name = some (.constant (.integer number isLong) span) →
    width.fits number = false →
    Culprit statement (.outOfRange name width) (.expr (.constant (.integer number isLong) span))
  | unknownReferentialAction {bound : Bound} {name action : String} {span : Span} :
    bound.IsOf statement → bound.value? name = some (.path ["ReferentialAction", action] span) →
    ReferentialAction.ofName? action = none →
    Culprit statement (.unknownReferentialAction action)
      (.expr (.path ["ReferentialAction", action] span))
  | columnObject {value : Expr} : Within (.call statement) (.expr value) →
    Culprit statement (.typeMismatch "columns" .columnObject) (.expr value)
  | namedColumn {segments : List String} {span : Span} :
    Within (.call statement) (.member (.path segments span)) →
    Culprit statement (.typeMismatch "columns" .namedColumn) (.member (.path segments span))
  | columnDeclaration {identifier : String} {value : Expr} {span : Span} :
    Within (.call statement) (.member (.named identifier value span)) →
    (∀ call, value ≠ .call call) →
    Culprit statement (.typeMismatch identifier .columnDeclaration) (.expr value)
  | statementBlock {value : Expr} : Within (.call statement) (.expr value) →
    Culprit statement (.typeMismatch "constraints" .statementBlock) (.expr value)
  | columnSelector {node : Node} : Within (.call statement) node →
    Culprit statement (.typeMismatch "columns" .columnSelector) node
  | unknownColumn {parameter identifier : String} {span : Span} {node : Node} :
    Within (.call statement) node →
    node = .expr (.path [parameter, identifier] span) ∨
      node = .member (.path [parameter, identifier] span) →
    Culprit statement (.unknownColumn identifier) node
  | duplicateColumn {identifier : String} {value : Expr} {span : Span} :
    Within (.call statement) (.member (.named identifier value span)) →
    Culprit statement (.duplicateColumn identifier) (.member (.named identifier value span))
  | duplicatePrimaryKey {call : Call} {table : String} : Within (.call statement) (.call call) →
    call.method = "PrimaryKey" → Culprit statement (.duplicatePrimaryKey table) (.call call)

/-- The error has the span of the node that is at fault. -/
def PointsInto (statement : Call) (error : ScriptError) : Prop :=
  ∃ node, Culprit statement error.cause node ∧ error.span = node.span

section Binding

variable {statement call : Call} {parameters : List Parameter} {bound : Bound}

theorem Culprit.points {cause : ScriptCause} {node : Node} (h : Culprit statement cause node) :
    PointsInto statement ⟨cause, node.span⟩ :=
  ⟨node, h, rfl⟩

namespace Bound

/-! ### Values are those of arguments -/

theorem isOf_of_ofCall (htakes : Takes statement call parameters)
    (h : ofCall call parameters = .ok bound) : bound.IsOf statement := by
  obtain ⟨given, hadd, h⟩ := except_bind_eq_ok.mp h
  dsimp only at h
  split at h <;> cases h
  exact ⟨parameters, htakes, hadd⟩

theorem IsOf.within (h : bound.IsOf statement) : Within (.call statement) (.call bound.call) := by
  obtain ⟨_, htakes, -⟩ := h
  exact htakes.within

theorem nodup_of_takes (h : Takes statement call parameters) :
    (parameters.map (·.name)).Nodup := by
  cases h with
  | @statement kind => exact kind.nodup_parameters
  | column | key | foreignKey => decide

theorem mem_entries {entry : String × Expr} {arguments : List Argument}
    (h : entry ∈ entries parameters arguments) :
    ∃ argument ∈ arguments, argument.value = entry.2 := by
  obtain h | h := List.mem_append.mp h
  · obtain ⟨argument, hargument, heq⟩ := List.mem_map.mp (List.of_mem_zip h).2
    exact ⟨argument, List.takeWhile_subset _ hargument, heq⟩
  · obtain ⟨argument, hargument, heq⟩ := List.mem_filterMap.mp h
    obtain ⟨name, -, rfl⟩ := Option.map_eq_some_iff.mp heq
    exact ⟨argument, hargument, rfl⟩

theorem mem_given_of_value? {name : String} {value : Expr} (h : bound.value? name = some value) :
    (name, value) ∈ bound.given := by
  rw [value?] at h
  have hlookup : bound.given.lookup name = some value := by
    split at h
    · cases h
    · exact h
  obtain ⟨before, after, hgiven, -⟩ := List.lookup_eq_some_iff.mp hlookup
  rw [hgiven]
  exact List.mem_append_right before List.mem_cons_self

/-- What is given to a parameter stands in the statement. -/
theorem IsOf.within_value (h : bound.IsOf statement) {name : String} {value : Expr}
    (hvalue : bound.value? name = some value) : Within (.call statement) (.expr value) := by
  obtain ⟨parameters, htakes, hadd⟩ := h
  obtain ⟨-, heq⟩ := (add_eq_ok_iff_fills (nodup_of_takes htakes)).mp hadd
  have hmem := mem_given_of_value? hvalue
  rw [heq] at hmem
  obtain ⟨argument, hargument, rfl⟩ := mem_entries hmem
  have hwithin : Within (.call statement) (.argument argument) :=
    htakes.within.child (List.mem_map_of_mem hargument)
  exact hwithin.child (List.mem_singleton_self _)

end Bound

/-- The node at fault stands in the statement. -/
theorem Culprit.within {cause : ScriptCause} {node : Node} (h : Culprit statement cause node) :
    Within (.call statement) node := by
  cases h with
  | unknownTarget h | unknownMethod h | columnObject h | namedColumn h | statementBlock h
  | columnSelector h | unknownColumn h | duplicateColumn h | duplicatePrimaryKey h => exact h
  | columnDeclaration h => exact h.child (List.mem_singleton_self _)
  | surplus htakes harguments =>
    refine htakes.within.child (List.mem_map_of_mem ?_)
    rw [harguments]
    exact List.mem_append_right _ List.mem_cons_self
  | missingArgument h | conflictingArguments h => exact h.within
  | mismatch h hvalue | outOfRange h hvalue | unknownReferentialAction h hvalue =>
    exact h.within_value hvalue
  | element h hvalue _ hitem => exact (h.within_value hvalue).child (List.mem_map_of_mem hitem)

namespace Bound

/-! ### Arguments that are for no parameter -/

variable {method name : String} {front arguments : List Argument} {error : ScriptError}

/-- Arguments without names fill as many parameters, and those behind them the others. -/
theorem entries_append_of_unnamed {passed left : List Parameter}
    (hfront : ∀ argument ∈ front, argument.name.isNone = true)
    (hlength : passed.length = front.length) :
    entries (passed ++ left) (front ++ arguments) =
      entries passed front ++ entries left arguments := by
  induction front generalizing passed with
  | nil =>
    rw [List.length_eq_zero_iff.mp hlength, entries_nil]
    rfl
  | cons argument front ih =>
    obtain ⟨name, value, span⟩ := argument
    obtain ⟨parameter, passed, rfl⟩ := List.exists_cons_of_length_eq_add_one hlength
    obtain ⟨hnone, hothers⟩ := List.forall_mem_cons.mp hfront
    obtain rfl : name = none := Option.isNone_iff_eq_none.mp hnone
    rw [List.cons_append, List.cons_append, entries_positional, entries_positional,
      ih hothers (Nat.succ.inj hlength), List.cons_append]

theorem entries_of_unnamed {passed left : List Parameter}
    (hfront : ∀ argument ∈ front, argument.name.isNone = true)
    (hlength : passed.length = front.length) :
    entries (passed ++ left) front = entries passed front := by
  have happend := @entries_append_of_unnamed front [] passed left hfront hlength
  rwa [List.append_nil, entries_nil, List.append_nil] at happend

/-- Behind arguments without names the next one fills the next parameter. -/
theorem entries_append_positional {passed left : List Parameter} {parameter : Parameter}
    {value : Expr} {span : Span} (hfront : ∀ argument ∈ front, argument.name.isNone = true)
    (hlength : passed.length = front.length) :
    entries (passed ++ parameter :: left) (front ++ [⟨none, value, span⟩]) =
      entries (passed ++ parameter :: left) front ++ [(parameter.name, value)] := by
  rw [entries_append_of_unnamed hfront hlength, entries_of_unnamed hfront hlength,
    entries_positional, entries_nil]

theorem givenNames_of_unnamed {passed left : List Parameter}
    (hfront : ∀ argument ∈ front, argument.name.isNone = true)
    (hlength : passed.length = front.length) :
    givenNames (passed ++ left) front = passed.map (·.name) := by
  rw [givenNames, entries_of_unnamed hfront hlength, entries, leading_of_unnamed hfront,
    namedEntries_of_unnamed hfront, List.append_nil]
  exact List.map_fst_zip (by rw [List.length_map, List.length_map, hlength])

/-- Arguments without names fill the parameters in front. -/
theorem fills_of_unnamed {passed left : List Parameter}
    (hnodup : ((passed ++ left).map (·.name)).Nodup)
    (hfront : ∀ argument ∈ front, argument.name.isNone = true)
    (hlength : passed.length = front.length) : Fills (passed ++ left) front := by
  refine ⟨?_, fun argument hmem => ?_, fun entry hmem => ?_, ?_⟩
  · rw [leading_of_unnamed hfront, List.length_append, hlength]
    exact Nat.le_add_right _ _
  · rw [behind_of_unnamed hfront] at hmem
    cases hmem
  · rw [namedEntries_of_unnamed hfront] at hmem
    cases hmem
  · rw [givenNames_of_unnamed hfront hlength]
    rw [List.map_append] at hnodup
    exact (List.nodup_append.mp hnodup).1

/-- The arguments in front of the first that cannot be added fill parameters. -/
theorem exists_surplus_of_addNamed (hfills : Fills parameters front)
    (hnamed : ∀ argument ∈ arguments.head?, argument.name = none →
      ∃ other ∈ front, other.name.isSome = true)
    (h : addNamed method parameters (entries parameters front) arguments = .error error) :
    ∃ before argument behind, front ++ arguments = before ++ argument :: behind ∧
      Fills parameters before ∧ Surplus method parameters before argument error.cause ∧
      error.span = argument.span := by
  -- The arguments that have been added are those in front; the induction moves them there.
  induction arguments generalizing front with
  | nil => cases h
  | cons argument rest ih =>
    obtain ⟨name, value, span⟩ := argument
    unfold addNamed at h
    cases name with
    | none =>
      cases h
      exact ⟨front, _, rest, rfl, hfills, .behindNamed (hnamed _ rfl rfl), rfl⟩
    | some name =>
      dsimp only at h
      split at h
      · rename_i hunknown
        cases h
        rw [Bool.not_eq_true', ← Bool.not_eq_true, any_beq_eq_true_iff] at hunknown
        exact ⟨front, _, rest, rfl, hfills, .unknown hunknown, rfl⟩
      rename_i hknown
      rw [Bool.not_eq_true', Bool.not_eq_false, any_beq_eq_true_iff] at hknown
      split at h
      · rename_i hagain
        cases h
        rw [any_beq_eq_true_iff] at hagain
        exact ⟨front, _, rest, rfl, hfills, .duplicate hagain, rfl⟩
      · rename_i hfresh
        rw [any_beq_eq_true_iff] at hfresh
        have hentries : entries parameters (front ++ [⟨some name, value, span⟩]) =
            entries parameters front ++ [(name, value)] := entries_append_named
        rw [← hentries] at h
        have hother : ∃ other ∈ front ++ [⟨some name, value, span⟩], other.name.isSome = true :=
          ⟨_, List.mem_append_right _ (List.mem_singleton_self _), rfl⟩
        have hfills' : Fills parameters (front ++ [⟨some name, value, span⟩]) :=
          (fills_added_iff hknown hfresh).mp hfills
        have hrest := ih hfills' (fun _ _ _ => hother) h
        rwa [List.append_assoc] at hrest

/-- The parameters behind those that are filled are left. -/
theorem exists_surplus_of_add {left passed : List Parameter}
    (hnodup : (parameters.map (·.name)).Nodup)
    (hfront : ∀ argument ∈ front, argument.name.isNone = true)
    (hparameters : parameters = passed ++ left) (hlength : passed.length = front.length)
    (h : add method parameters (entries parameters front) left arguments = .error error) :
    ∃ before argument behind, front ++ arguments = before ++ argument :: behind ∧
      Fills parameters before ∧ Surplus method parameters before argument error.cause ∧
      error.span = argument.span := by
  induction arguments generalizing front left passed with
  | nil =>
    rw [add_nil] at h
    cases h
  | cons argument rest ih =>
    obtain ⟨name, value, span⟩ := argument
    have hfills : Fills parameters front := by
      rw [hparameters] at hnodup ⊢
      exact fills_of_unnamed hnodup hfront hlength
    cases name with
    | some name =>
      unfold add at h
      refine exists_surplus_of_addNamed hfills (fun argument hargument hnone => ?_) h
      cases hargument
      cases hnone
    | none =>
      cases left with
      | nil =>
        cases h
        rw [List.append_nil] at hparameters
        subst hparameters
        exact ⟨front, _, rest, rfl, hfills, .tooMany hfront hlength.symm, rfl⟩
      | cons parameter left =>
        have hfront' : ∀ argument ∈ front ++ [⟨none, value, span⟩], argument.name.isNone = true :=
          List.forall_mem_append.mpr ⟨hfront, List.forall_mem_singleton.mpr rfl⟩
        have hparameters' : parameters = (passed ++ [parameter]) ++ left := by
          rw [hparameters, List.append_assoc]
          rfl
        have hlength' : (passed ++ [parameter]).length =
            (front ++ [(⟨none, value, span⟩ : Argument)]).length := by
          rw [List.length_append, List.length_append, hlength]
          rfl
        have hentries : entries parameters (front ++ [⟨none, value, span⟩]) =
            entries parameters front ++ [(parameter.name, value)] := by
          rw [hparameters]
          exact entries_append_positional hfront hlength
        rw [add_positional, ← hentries] at h
        have hrest := ih hfront' hparameters' hlength' h
        rwa [List.append_assoc] at hrest

/-- A call that cannot be bound has an argument that is for no parameter, or lacks one. -/
theorem errs_ofCall (htakes : Takes statement call parameters) :
    Errs (ofCall call parameters) (PointsInto statement) := by
  unfold ofCall
  refine .bind (fun error hadd => ?_) fun given hadd => ?_
  · rw [← @entries_nil parameters] at hadd
    obtain ⟨before, argument, behind, harguments, -, hsurplus, hspan⟩ :=
      @exists_surplus_of_add parameters call.method [] call.arguments error parameters []
        (nodup_of_takes htakes) (fun _ hmem => absurd hmem List.not_mem_nil) rfl rfl hadd
    exact ⟨_, .surplus htakes harguments hsurplus, hspan⟩
  · dsimp only
    split
    · rename_i parameter hlacking
      have hlacks := List.find?_some hlacking
      rw [Bool.and_eq_true, Option.isNone_iff_eq_none] at hlacks
      have hbound : IsOf ⟨call, given⟩ statement := ⟨parameters, htakes, hadd⟩
      exact .error (Culprit.missingArgument hbound (.inl hlacks.2)).points
    · exact .ok

theorem IsOf.errs_exclusive (h : bound.IsOf statement) (first second : String) :
    Errs (bound.exclusive first second) (PointsInto statement) := by
  unfold exclusive
  split
  · rename_i hboth
    rw [Bool.and_eq_true] at hboth
    exact .error (Culprit.conflictingArguments h hboth.1 hboth.2).points
  · exact .ok

end Bound

end Binding

end MigrationScript
