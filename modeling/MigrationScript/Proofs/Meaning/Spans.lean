import MigrationScript.Meaning.Statement
import MigrationScript.Proofs.Tree.Spans

namespace MigrationScript

/-- The error at another place. -/
def ScriptError.mapSpan (change : Span → Span) (error : ScriptError) : ScriptError :=
  { error with span := change error.span }

/-- The same outcome with its error at another place. -/
def moved {α : Type} (change : Span → Span) (outcome : Except ScriptError α) :
    Except ScriptError α :=
  outcome.mapError (·.mapSpan change)

section Steps

variable {α β : Type} {change : Span → Span}

@[simp]
theorem moved_ok (value : α) : moved change (.ok value) = .ok value :=
  rfl

@[simp]
theorem moved_pure (value : α) : moved change (pure value) = pure value :=
  rfl

@[simp]
theorem moved_error (error : ScriptError) :
    moved change (.error error : Except ScriptError α) = .error (error.mapSpan change) :=
  rfl

@[simp]
theorem moved_bind (first : Except ScriptError α) (further : α → Except ScriptError β) :
    moved change (first >>= further) =
      moved change first >>= fun value => moved change (further value) := by
  cases first <;> rfl

@[simp]
theorem moved_map (outcome : Except ScriptError α) (view : α → β) :
    moved change (outcome.map view) = (moved change outcome).map view := by
  cases outcome <;> rfl

theorem moved_ite {condition : Prop} [Decidable condition] (first second : Except ScriptError α) :
    moved change (if condition then first else second) =
      if condition then moved change first else moved change second := by
  split <;> rfl

theorem map_bind_moved {γ : Type} (outcome : Except ScriptError α) (view : α → β)
    (further : β → Except ScriptError γ) :
    outcome.map view >>= further = outcome >>= fun value => further (view value) := by
  cases outcome <;> rfl

theorem mapM_moved {γ : Type} {view : γ → γ} {step step' : γ → Except ScriptError α}
    {items : List γ} (h : ∀ item, step' (view item) = moved change (step item)) :
    (items.map view).mapM step' = moved change (items.mapM step) := by
  induction items with
  | nil => rfl
  | cons item rest ih =>
    rw [List.map_cons, List.mapM_cons, List.mapM_cons, h, ih, moved_bind]
    simp only [moved_bind, moved_pure]

theorem foldlM_moved {γ : Type} {view : γ → γ} {step step' : β → γ → Except ScriptError β}
    {items : List γ} (h : ∀ state item, step' state (view item) = moved change (step state item))
    (state : β) : (items.map view).foldlM step' state = moved change (items.foldlM step state) := by
  induction items generalizing state with
  | nil => rfl
  | cons item rest ih =>
    rw [List.map_cons, List.foldlM_cons, List.foldlM_cons, h, moved_bind]
    simp only [ih]

end Steps

variable {change : Span → Span}

/-! ### Conversions -/

/-- The conversion reads the same value wherever the expression stands. -/
def Conversion.Steady {α : Type} (change : Span → Span) (convert : Conversion α) : Prop :=
  ∀ argument expr, convert argument (expr.mapSpans change) = moved change (convert argument expr)

namespace Expr

theorem mismatch_mapSpans {α : Type} (argument : String) (wanted : Wanted) (expr : Expr) :
    (mismatch argument wanted (expr.mapSpans change) : Except ScriptError α) =
      moved change (mismatch argument wanted expr) := by
  rw [mismatch, span_mapSpans]
  rfl

theorem steady_toText : Conversion.Steady change toText := by
  intro argument expr
  cases expr with
  | constant value => cases value <;> rfl
  | call nested => exact mismatch_mapSpans _ _ _
  | _ => rfl

theorem steady_toBool : Conversion.Steady change toBool := by
  intro argument expr
  cases expr with
  | constant value => cases value <;> rfl
  | call nested => exact mismatch_mapSpans _ _ _
  | _ => rfl

theorem steady_toInt : Conversion.Steady change toInt := by
  intro argument expr
  cases expr with
  | constant value =>
    cases value with
    | integer value isLong =>
      cases isLong with
      | false =>
        simp only [mapSpans, toInt]
        cases int32? value <;> rfl
      | true => rfl
    | _ => rfl
  | call nested => exact mismatch_mapSpans _ _ _
  | _ => rfl

theorem steady_toLong : Conversion.Steady change toLong := by
  intro argument expr
  cases expr with
  | constant value =>
    cases value with
    | integer value isLong =>
      simp only [mapSpans, toLong]
      cases int64? value <;> rfl
    | _ => rfl
  | call nested => exact mismatch_mapSpans _ _ _
  | _ => rfl

theorem steady_toDefault : Conversion.Steady change toDefault := by
  intro argument expr
  cases expr with
  | constant value =>
    cases value with
    | integer value isLong =>
      simp only [mapSpans, toDefault]
      cases integerDefault? value isLong <;> rfl
    | _ => rfl
  | path segments span =>
    by_cases hsegments : ∃ name, segments = ["double", name]
    · obtain ⟨name, rfl⟩ := hsegments
      simp only [mapSpans, toDefault]
      cases namedDouble? name <;> rfl
    · have hother (span : Span) : toDefault argument (.path segments span) =
          mismatch argument .defaultValue (.path segments span) := by
        unfold toDefault
        split <;> first | rfl | contradiction | exact absurd ⟨_, (Expr.path.inj ‹_›).1⟩ hsegments
      rw [mapSpans, hother, hother]
      rfl
  | call nested => exact mismatch_mapSpans _ _ _
  | _ => rfl

theorem steady_toAction : Conversion.Steady change toAction := by
  intro argument expr
  cases expr with
  | constant value => cases value <;> rfl
  | path segments span =>
    by_cases hsegments : ∃ name, segments = ["ReferentialAction", name]
    · obtain ⟨name, rfl⟩ := hsegments
      simp only [mapSpans, toAction]
      cases ReferentialAction.ofName? name <;> rfl
    · have hother (span : Span) : toAction argument (.path segments span) =
          mismatch argument .referentialAction (.path segments span) := by
        unfold toAction
        split
        · exact absurd ⟨_, (Expr.path.inj ‹_›).1⟩ hsegments
        · rfl
      rw [mapSpans, hother, hother]
      rfl
  | call nested => exact mismatch_mapSpans _ _ _
  | _ => rfl

theorem steady_toTexts : Conversion.Steady change toTexts := by
  intro argument expr
  cases expr with
  | array items span =>
    simp only [mapSpans, mapItems_eq_map, toTexts]
    exact mapM_moved (steady_toText argument)
  | constant value => cases value <;> rfl
  | call nested => exact mismatch_mapSpans _ _ _
  | _ => rfl

theorem toFunction_mapSpans (argument : String) (expr : Expr) :
    toFunction argument (expr.mapSpans change) =
      (moved change (toFunction argument expr)).map (mapSpans change) := by
  cases expr with
  | constant value => cases value <;> rfl
  | call nested => exact mismatch_mapSpans _ _ _
  | function parameter body span => rfl
  | block parameter statements span => rfl
  | _ => rfl

end Expr

/-! ### Bound arguments -/

/-- A value under its name with every span changed. -/
def mapGiven (change : Span → Span) (entry : String × Expr) : String × Expr :=
  (entry.1, entry.2.mapSpans change)

namespace Bound

def mapSpans (change : Span → Span) (bound : Bound) : Bound :=
  ⟨bound.call.mapSpans change, bound.given.map (mapGiven change)⟩

theorem lookup_mapGiven (given : List (String × Expr)) (name : String) :
    (given.map (mapGiven change)).lookup name =
      (given.lookup name).map (Expr.mapSpans change) := by
  induction given with
  | nil => rfl
  | cons entry rest ih =>
    obtain ⟨other, value⟩ := entry
    rw [List.map_cons, mapGiven, List.lookup_cons, List.lookup_cons, ih]
    cases name == other <;> rfl

theorem value?_mapSpans (bound : Bound) (name : String) :
    (bound.mapSpans change).value? name = (bound.value? name).map (Expr.mapSpans change) := by
  rw [value?, value?, mapSpans, lookup_mapGiven]
  cases bound.given.lookup name with
  | none => rfl
  | some expr =>
    cases expr with
    | constant value => cases value <;> rfl
    | _ => rfl

theorem any_mapGiven (given : List (String × Expr)) (name : String) :
    (given.map (mapGiven change)).any (·.1 == name) = given.any (·.1 == name) := by
  rw [List.any_map]
  rfl

variable {method : String} {parameters : List Parameter}

theorem addNamed_mapSpans (given : List (String × Expr)) (arguments : List Argument) :
    addNamed method parameters (given.map (mapGiven change))
        (arguments.map (Argument.mapSpans change)) =
      (moved change (addNamed method parameters given arguments)).map
        (List.map (mapGiven change)) := by
  induction arguments generalizing given with
  | nil => rfl
  | cons argument rest ih =>
    rw [List.map_cons, addNamed, addNamed, Argument.name_mapSpans]
    cases argument.name with
    | none =>
      rw [Argument.span_mapSpans]
      rfl
    | some name =>
      dsimp only
      rw [any_mapGiven, Argument.span_mapSpans, Argument.value_mapSpans]
      split
      · rfl
      split
      · rfl
      · rw [← ih, List.map_append]
        rfl

theorem add_mapSpans (given : List (String × Expr)) (left : List Parameter)
    (arguments : List Argument) :
    add method parameters (given.map (mapGiven change)) left
        (arguments.map (Argument.mapSpans change)) =
      (moved change (add method parameters given left arguments)).map
        (List.map (mapGiven change)) := by
  induction arguments generalizing given left with
  | nil =>
    rw [List.map_nil, add, add]
    rfl
  | cons argument rest ih =>
    rw [List.map_cons]
    unfold add
    rw [Argument.name_mapSpans]
    cases argument.name with
    | some name =>
      rw [← List.map_cons]
      exact addNamed_mapSpans given (argument :: rest)
    | none =>
      cases left with
      | nil =>
        dsimp only
        rw [Argument.span_mapSpans]
        rfl
      | cons parameter left =>
        dsimp only
        rw [← ih, Argument.value_mapSpans, List.map_append]
        rfl

theorem missing_mapSpans (bound : Bound) (name : String) :
    (bound.mapSpans change).missing name = (bound.missing name).mapSpan change := by
  rw [missing, missing, mapSpans, Call.method_mapSpans, Call.span_mapSpans]
  rfl

theorem ofCall_mapSpans (call : Call) :
    ofCall (call.mapSpans change) parameters =
      (moved change (ofCall call parameters)).map (mapSpans change) := by
  have hadd : add call.method parameters [] parameters (call.mapSpans change).arguments =
      (moved change (add call.method parameters [] parameters call.arguments)).map
        (List.map (mapGiven change)) := by
    rw [Call.arguments_mapSpans]
    exact add_mapSpans [] parameters call.arguments
  rw [ofCall, ofCall, Call.method_mapSpans, hadd]
  cases add call.method parameters [] parameters call.arguments with
  | error error => rfl
  | ok given =>
    have hbound : Bound.mk (call.mapSpans change) (given.map (mapGiven change)) =
        mapSpans change ⟨call, given⟩ := rfl
    simp only [moved_ok, Except.map, bind, Except.bind, hbound, value?_mapSpans, Option.isNone_map]
    cases parameters.find? fun parameter =>
        parameter.isRequired && (value? ⟨call, given⟩ parameter.name).isNone with
    | none => rfl
    | some parameter => exact congrArg Except.error (missing_mapSpans _ parameter.name)

/-! ### Values of parameters -/

section Values

variable {α : Type} {convert : Conversion α}

theorem optional_mapSpans (hconvert : convert.Steady change) (bound : Bound) (name : String) :
    (bound.mapSpans change).optional convert name = moved change (bound.optional convert name) := by
  rw [optional, optional, value?_mapSpans]
  cases bound.value? name with
  | none => rfl
  | some expr => exact (congrArg _ (hconvert name expr)).trans (moved_map _ _).symm

theorem required_mapSpans (hconvert : convert.Steady change) (bound : Bound) (name : String) :
    (bound.mapSpans change).required convert name = moved change (bound.required convert name) := by
  rw [required, required, value?_mapSpans]
  cases bound.value? name with
  | none => exact congrArg Except.error (bound.missing_mapSpans name)
  | some expr => exact hconvert name expr

theorem required_toFunction_mapSpans (bound : Bound) (name : String) :
    (bound.mapSpans change).required Expr.toFunction name =
      (moved change (bound.required Expr.toFunction name)).map (Expr.mapSpans change) := by
  rw [required, required, value?_mapSpans]
  cases bound.value? name with
  | none => exact congrArg Except.error (bound.missing_mapSpans name)
  | some expr => exact Expr.toFunction_mapSpans name expr

theorem optional_toFunction_mapSpans (bound : Bound) (name : String) :
    (bound.mapSpans change).optional Expr.toFunction name =
      (moved change (bound.optional Expr.toFunction name)).map
        (Option.map (Expr.mapSpans change)) := by
  rw [optional, optional, value?_mapSpans]
  cases bound.value? name with
  | none => rfl
  | some expr =>
    dsimp only [Option.map_some]
    rw [Expr.toFunction_mapSpans]
    cases Expr.toFunction name expr <;> rfl

end Values

variable (bound : Bound)

theorem exclusive_mapSpans (first second : String) :
    (bound.mapSpans change).exclusive first second =
      moved change (bound.exclusive first second) := by
  rw [exclusive, exclusive, value?_mapSpans, value?_mapSpans, Option.isSome_map, Option.isSome_map,
    mapSpans, Call.method_mapSpans, Call.span_mapSpans, moved_ite]
  rfl

theorem columns_mapSpans (singular plural : String) :
    (bound.mapSpans change).columns singular plural =
      moved change (bound.columns singular plural) := by
  rw [columns, columns, exclusive_mapSpans, optional_mapSpans Expr.steady_toText,
    optional_mapSpans Expr.steady_toTexts]
  simp only [moved_bind]
  refine congrArg _ (funext fun _ => congrArg _ (funext fun column => ?_))
  cases column <;> simp only [moved_bind, moved_pure]

theorem requiredColumns_mapSpans (singular plural : String) :
    (bound.mapSpans change).requiredColumns singular plural =
      moved change (bound.requiredColumns singular plural) := by
  rw [requiredColumns, requiredColumns, columns_mapSpans]
  simp only [moved_bind, moved_ite, moved_ok, moved_error, missing_mapSpans]

theorem columnOptions_mapSpans (column : Column) :
    (bound.mapSpans change).columnOptions column = moved change (bound.columnOptions column) := by
  simp only [columnOptions, exclusive_mapSpans, optional_mapSpans Expr.steady_toBool,
    optional_mapSpans Expr.steady_toDefault, optional_mapSpans Expr.steady_toText, moved_bind,
    moved_pure]

theorem reference_mapSpans (key : ForeignKey) :
    (bound.mapSpans change).reference key = moved change (bound.reference key) := by
  simp only [reference, columns_mapSpans, required_mapSpans Expr.steady_toText,
    optional_mapSpans Expr.steady_toText, optional_mapSpans Expr.steady_toAction, moved_bind,
    moved_pure]

end Bound

/-! ### Tables -/

theorem Call.addresses_mapSpans (call : Call) (target : String) :
    (call.mapSpans change).addresses target = moved change (call.addresses target) := by
  rw [addresses, addresses, target_mapSpans, span_mapSpans, moved_ite]
  rfl

theorem Call.unknownMethod_mapSpans {α : Type} (call : Call) :
    ((call.mapSpans change).unknownMethod : Except ScriptError α) =
      moved change call.unknownMethod := by
  rw [unknownMethod, unknownMethod, method_mapSpans, span_mapSpans]
  rfl

namespace Table

variable (table : Table) (declared : DeclaredColumns) (parameter : String)

theorem column_mapSpans (identifier : String) (call : Call) :
    table.column parameter identifier (call.mapSpans change) =
      moved change (table.column parameter identifier call) := by
  simp only [column, Call.addresses_mapSpans, Call.method_mapSpans, Call.unknownMethod_mapSpans,
    Bound.ofCall_mapSpans, map_bind_moved, Bound.optional_mapSpans Expr.steady_toText,
    Bound.required_mapSpans Expr.steady_toText, Bound.columnOptions_mapSpans, moved_bind, moved_ite]

theorem addColumn_mapSpans (member : Member) :
    table.addColumn parameter declared (member.mapSpans change) =
      moved change (table.addColumn parameter declared member) := by
  cases member with
  | path segments span => rfl
  | named identifier value span =>
    rw [Member.mapSpans]
    cases value with
    | call call =>
      simp only [Expr.mapSpans, addColumn, column_mapSpans, moved_bind, moved_ite, moved_ok,
        moved_error]
      rfl
    | _ => exact Expr.mismatch_mapSpans _ _ _

theorem declaredColumns_mapSpans (function : Expr) :
    table.declaredColumns (function.mapSpans change) =
      moved change (table.declaredColumns function) := by
  cases function with
  | function parameter body span =>
    rw [Expr.mapSpans]
    cases body with
    | object members span =>
      rw [Expr.mapSpans, mapMembers_eq_map]
      exact foldlM_moved
        (fun declared member => table.addColumn_mapSpans declared parameter member) []
    | _ => exact Expr.mismatch_mapSpans _ _ _
  | _ => exact Expr.mismatch_mapSpans _ _ _

theorem selected_moved (segments : List String) (span : Span) :
    selected declared parameter segments (change span) =
      moved change (selected declared parameter segments span) := by
  unfold selected
  split
  · rw [moved_ite]
    split
    · split <;> rfl
    · rfl
  · rfl

theorem selectedMember_mapSpans (member : Member) :
    selectedMember declared parameter (member.mapSpans change) =
      moved change (selectedMember declared parameter member) := by
  cases member with
  | path segments span => exact selected_moved declared parameter segments span
  | named name value span => rfl

theorem selection_mapSpans (function : Expr) :
    selection declared (function.mapSpans change) = moved change (selection declared function) := by
  cases function with
  | function parameter body span =>
    rw [Expr.mapSpans]
    cases body with
    | path segments span =>
      simp only [Expr.mapSpans, selection, selected_moved, moved_bind, moved_pure]
    | object members span =>
      rw [Expr.mapSpans, mapMembers_eq_map]
      exact mapM_moved (selectedMember_mapSpans declared parameter)
    | _ => exact Expr.mismatch_mapSpans _ _ _
  | _ => exact Expr.mismatch_mapSpans _ _ _

theorem key_mapSpans (call : Call) :
    table.key declared (call.mapSpans change) = moved change (table.key declared call) := by
  simp only [key, Bound.ofCall_mapSpans, map_bind_moved,
    Bound.required_mapSpans Expr.steady_toText, Bound.required_toFunction_mapSpans,
    selection_mapSpans, moved_bind, moved_pure]

theorem foreignKey_mapSpans (call : Call) :
    table.foreignKey declared (call.mapSpans change) =
      moved change (table.foreignKey declared call) := by
  simp only [foreignKey, Bound.ofCall_mapSpans, map_bind_moved,
    Bound.required_mapSpans Expr.steady_toText, Bound.required_toFunction_mapSpans,
    selection_mapSpans, Bound.reference_mapSpans, moved_bind]

theorem addConstraint_mapSpans (call : Call) :
    addConstraint parameter declared table (call.mapSpans change) =
      moved change (addConstraint parameter declared table call) := by
  unfold addConstraint
  rw [Call.addresses_mapSpans, Call.method_mapSpans, moved_bind]
  refine congrArg _ (funext fun _ => ?_)
  split
  · simp only [Call.span_mapSpans, key_mapSpans, moved_bind, moved_ite, moved_pure, moved_error]
    rfl
  · simp only [foreignKey_mapSpans, moved_bind, moved_pure]
  · simp only [key_mapSpans, moved_bind, moved_pure]
  · exact call.unknownMethod_mapSpans

theorem addConstraints_mapSpans (function : Expr) :
    table.addConstraints declared (function.mapSpans change) =
      moved change (table.addConstraints declared function) := by
  cases function with
  | block parameter statements span =>
    rw [Expr.mapSpans, mapCalls_eq_map]
    exact foldlM_moved
      (fun table call => addConstraint_mapSpans table declared parameter call) table
  | _ => exact Expr.mismatch_mapSpans _ _ _

theorem ofBound_mapSpans (bound : Bound) :
    ofBound (bound.mapSpans change) = moved change (ofBound bound) := by
  simp only [ofBound, Bound.required_mapSpans Expr.steady_toText,
    Bound.optional_mapSpans Expr.steady_toText, Bound.required_toFunction_mapSpans,
    Bound.optional_toFunction_mapSpans, map_bind_moved, declaredColumns_mapSpans, moved_bind]
  refine congrArg _ (funext fun name => congrArg _ (funext fun schema =>
    congrArg _ (funext fun function => congrArg _ (funext fun declared =>
      congrArg _ (funext fun constraints => ?_)))))
  cases constraints with
  | none => rfl
  | some function => exact addConstraints_mapSpans _ declared function

end Table

/-! ### Operations -/

theorem Bound.toOperation_mapSpans (bound : Bound) (kind : Kind) :
    (bound.mapSpans change).toOperation kind = moved change (bound.toOperation kind) := by
  unfold toOperation
  rw [optional_mapSpans Expr.steady_toText, moved_bind]
  refine congrArg _ (funext fun schema => ?_)
  cases kind <;>
    simp only [toColumn, toForeignKey, toKey, toIndex, toSequenceChange, toSequence, toTableMember,
      toSchemaObject, toSchemaName, toMemberRename, toObjectRename, toSequenceRestart, toSqlText,
      required_mapSpans Expr.steady_toText, required_mapSpans Expr.steady_toLong,
      optional_mapSpans Expr.steady_toText, optional_mapSpans Expr.steady_toBool,
      optional_mapSpans Expr.steady_toInt, optional_mapSpans Expr.steady_toLong,
      requiredColumns_mapSpans, columnOptions_mapSpans, reference_mapSpans, Table.ofBound_mapSpans,
      moved_bind, moved_pure]

theorem Call.operation_mapSpans (builder : String) (call : Call) :
    (call.mapSpans change).operation builder = moved change (call.operation builder) := by
  unfold operation
  rw [addresses_mapSpans, method_mapSpans, moved_bind]
  refine congrArg _ (funext fun _ => ?_)
  cases Kind.ofMethod? call.method with
  | none => exact call.unknownMethod_mapSpans
  | some kind =>
    simp only [Bound.ofCall_mapSpans, map_bind_moved, Bound.toOperation_mapSpans, moved_bind]

theorem moved_eq_ok_iff {α : Type} {outcome : Except ScriptError α} {value : α} :
    moved change outcome = .ok value ↔ outcome = .ok value := by
  cases outcome with
  | ok found => rfl
  | error error =>
    constructor
    · rintro ⟨⟩
    · rintro ⟨⟩

end MigrationScript
