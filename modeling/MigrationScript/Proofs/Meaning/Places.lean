import Mathlib.Data.Option.Basic
import Mathlib.Data.Prod.Basic
import MigrationScript.Proofs.Meaning.Culprit

namespace MigrationScript

/-- The value stands for none. -/
def Expr.isNull : Expr → Bool
  | .constant .null _ => true
  | _ => false

namespace Bound

/-! ### Rules for arguments -/

/-- The name of the parameter that an argument is for: the one that it has, or that of the parameter
at its place. -/
def parameterAt? (parameters : List Parameter) (place : Nat) (argument : Argument) : Option String :=
  argument.name.or (parameters[place]?.map (·.name))

/-- The values of arguments, each behind the name of the parameter that it is for. -/
def assigned (parameters : List Parameter) (arguments : List Argument) :
    List (Option String × Expr) :=
  arguments.mapIdx fun place argument => (parameterAt? parameters place argument, argument.value)

/-- One of the arguments is for the parameter and has the value. -/
def Gives (parameters : List Parameter) (arguments : List Argument) (name : String)
    (value : Expr) : Prop :=
  (some name, value) ∈ assigned parameters arguments

/-- The parameter is given a value other than `null`. -/
def Supplies (parameters : List Parameter) (arguments : List Argument) (name : String) : Prop :=
  ∃ value, Gives parameters arguments name value ∧ value.isNull = false

/-- The arguments can be bound: none without a name stands behind one with a name, there are
parameters for those without, names are those of parameters, no two arguments are for the same
parameter, and every required parameter is given a value. -/
structure Binds (parameters : List Parameter) (arguments : List Argument) : Prop where
  inOrder : arguments.Pairwise fun earlier later =>
    earlier.name.isSome = true → later.name.isSome = true
  room : (arguments.filter (·.name.isNone)).length ≤ parameters.length
  known : ∀ argument ∈ arguments, ∀ name ∈ argument.name, name ∈ parameters.map (·.name)
  once : ((assigned parameters arguments).map (·.1)).Nodup
  supplied : ∀ parameter ∈ parameters, parameter.isRequired = true →
    Supplies parameters arguments parameter.name

/-- The argument at a place is for no parameter, or for one that those in front of it are for, and
the error says so. -/
def AtFault (call : Call) (parameters : List Parameter) (place : Nat) (error : ScriptError) : Prop :=
  ∃ argument, call.arguments[place]? = some argument ∧
    Surplus call.method parameters (call.arguments.take place) argument error.cause ∧
    error.span = argument.span

/-- The parameter has to be given a value and is not. -/
def Lacking (parameters : List Parameter) (arguments : List Argument) (parameter : Parameter) :
    Prop :=
  parameter.isRequired = true ∧ ¬Supplies parameters arguments parameter.name

section Rules

variable {parameters : List Parameter} {arguments : List Argument}

theorem inOrder_iff :
    (arguments.Pairwise fun earlier later =>
        earlier.name.isSome = true → later.name.isSome = true) ↔
      ∀ argument ∈ behind arguments, argument.name.isSome = true := by
  induction arguments with
  | nil => exact iff_of_true .nil fun _ hmem => absurd hmem List.not_mem_nil
  | cons argument rest ih =>
    obtain ⟨name, value, span⟩ := argument
    rw [List.pairwise_cons]
    cases name with
    | none =>
      rw [behind_positional, ih]
      exact and_iff_right fun _ _ hnone => absurd hnone Bool.false_ne_true
    | some name =>
      rw [behind_named, List.forall_mem_cons]
      constructor
      · exact fun h => ⟨rfl, fun later hlater => h.1 later hlater rfl⟩
      · rintro ⟨-, hrest⟩
        refine ⟨fun later hlater _ => hrest later hlater, ih.mpr fun later hlater => ?_⟩
        exact hrest later (List.dropWhile_subset _ hlater)

theorem filter_isNone_eq_leading
    (hnamed : ∀ argument ∈ behind arguments, argument.name.isSome = true) :
    arguments.filter (·.name.isNone) = leading arguments := by
  have hleading : (leading arguments).filter (·.name.isNone) = leading arguments :=
    List.filter_eq_self.mpr fun _ => name_of_mem_leading
  have hbehind : (behind arguments).filter (·.name.isNone) = [] := by
    refine List.filter_eq_nil_iff.mpr fun argument hmem => ?_
    rw [Bool.not_eq_true, Option.isNone_eq_false_iff]
    exact hnamed argument hmem
  conv_lhs =>
    rw [← @leading_append_behind arguments, List.filter_append, hleading, hbehind,
      List.append_nil]

theorem known_iff {names : List String} :
    (∀ argument ∈ arguments, ∀ name ∈ argument.name, name ∈ names) ↔
      ∀ entry ∈ namedEntries arguments, entry.1 ∈ names := by
  constructor
  · intro h entry hentry
    obtain ⟨argument, hargument, hname⟩ := List.mem_filterMap.mp hentry
    obtain ⟨name, hsome, rfl⟩ := Option.map_eq_some_iff.mp hname
    exact h argument hargument name hsome
  · intro h argument hargument name hname
    refine h (name, argument.value) (List.mem_filterMap.mpr ⟨argument, hargument, ?_⟩)
    rw [hname]
    rfl

/-- Behind a named argument all are for the parameters of their names. -/
theorem assigned_of_named (hnamed : ∀ argument ∈ arguments, argument.name.isSome = true) :
    assigned parameters arguments = (namedEntries arguments).map (Prod.map some id) := by
  have hassigned : ∀ assign : Nat → Argument → Option String × Expr,
      (∀ place name value span,
        assign place ⟨some name, value, span⟩ = (some name, value)) →
      arguments.mapIdx assign = (namedEntries arguments).map (Prod.map some id) := by
    induction arguments with
    | nil => exact fun _ _ => rfl
    | cons argument rest ih =>
      obtain ⟨name, value, span⟩ := argument
      rw [List.forall_mem_cons] at hnamed
      obtain ⟨name, rfl⟩ := Option.isSome_iff_exists.mp hnamed.1
      intro assign hassign
      rw [List.mapIdx_cons, namedEntries_named, List.map_cons, hassign]
      exact congrArg _ (ih hnamed.2 _ fun place => hassign (place + 1))
  exact hassigned _ fun _ _ _ _ => rfl

/-- The parameters that the places tell are those that the arguments fill. -/
theorem assigned_eq (hroom : (leading arguments).length ≤ parameters.length)
    (hnamed : ∀ argument ∈ behind arguments, argument.name.isSome = true) :
    assigned parameters arguments = (entries parameters arguments).map (Prod.map some id) := by
  induction arguments generalizing parameters with
  | nil =>
    rw [entries_nil]
    rfl
  | cons argument rest ih =>
    obtain ⟨name, value, span⟩ := argument
    cases name with
    | some name =>
      rw [entries_named]
      exact assigned_of_named hnamed
    | none =>
      cases parameters with
      | nil => exact absurd hroom (Nat.not_succ_le_zero _)
      | cons parameter parameters =>
        have hassigned : assigned (parameter :: parameters) (⟨none, value, span⟩ :: rest) =
            (some parameter.name, value) :: assigned parameters rest := by
          rw [assigned, List.mapIdx_cons]
          rfl
        rw [hassigned, entries_positional, List.map_cons,
          ih (Nat.le_of_succ_le_succ hroom) hnamed]
        rfl

theorem once_iff (hroom : (leading arguments).length ≤ parameters.length)
    (hnamed : ∀ argument ∈ behind arguments, argument.name.isSome = true) :
    ((assigned parameters arguments).map (·.1)).Nodup ↔
      (givenNames parameters arguments).Nodup := by
  have hnames : (assigned parameters arguments).map (·.1) =
      (givenNames parameters arguments).map some := by
    rw [assigned_eq hroom hnamed, givenNames, List.map_map, List.map_map]
    rfl
  rw [hnames, List.nodup_map_iff (Option.some_injective _)]

theorem gives_iff (h : Fills parameters arguments) {name : String} {value : Expr} :
    Gives parameters arguments name value ↔ (name, value) ∈ entries parameters arguments := by
  have hinjective : Function.Injective (Prod.map some id : String × Expr → Option String × Expr) :=
    (Option.some_injective _).prodMap Function.injective_id
  rw [Gives, assigned_eq h.room h.named]
  exact @List.mem_map_of_injective _ _ _ hinjective (name, value) _

theorem binds_iff :
    Binds parameters arguments ↔ Fills parameters arguments ∧
      ∀ parameter ∈ parameters, parameter.isRequired = true →
        Supplies parameters arguments parameter.name := by
  constructor
  · rintro ⟨hinOrder, hroom, hknown, honce, hsupplied⟩
    rw [inOrder_iff] at hinOrder
    rw [filter_isNone_eq_leading hinOrder] at hroom
    exact ⟨⟨hroom, hinOrder, known_iff.mp hknown, (once_iff hroom hinOrder).mp honce⟩, hsupplied⟩
  · rintro ⟨⟨hroom, hnamed, hknown, honce⟩, hsupplied⟩
    refine ⟨inOrder_iff.mpr hnamed, ?_, known_iff.mpr hknown, (once_iff hroom hnamed).mpr honce,
      hsupplied⟩
    rwa [filter_isNone_eq_leading hnamed]

end Rules

/-! ### Bound values -/

section Values

variable {call : Call} {parameters : List Parameter} {arguments : List Argument}

theorem value?_eq_filter (bound : Bound) (name : String) :
    bound.value? name = (bound.given.lookup name).filter (!·.isNull) := by
  rw [value?]
  cases bound.given.lookup name with
  | none => rfl
  | some expr =>
    cases expr with
    | constant value => cases value <;> rfl
    | _ => rfl

/-- The value of a parameter is that of the argument for it, unless it is `null`. -/
theorem value?_filled_eq_some_iff (h : Fills parameters call.arguments) {name : String}
    {value : Expr} :
    (filled call parameters).value? name = some value ↔
      Gives parameters call.arguments name value ∧ value.isNull = false := by
  rw [value?_eq_filter, Option.filter_eq_some_iff, gives_iff h, filled,
    lookup_eq_some_iff_mem h.once, Bool.not_eq_true']

theorem isSome_value?_filled_iff (h : Fills parameters call.arguments) {name : String} :
    ((filled call parameters).value? name).isSome = true ↔
      Supplies parameters call.arguments name := by
  rw [Option.isSome_iff_exists]
  simp only [value?_filled_eq_some_iff h]
  rfl

/-! ### The first argument at fault -/

/-- None of the arguments that fill parameters is at fault. -/
theorem not_surplus_of_fills {method : String} {before behind : List Argument}
    {argument : Argument} {cause : ScriptCause}
    (h : Fills parameters (before ++ argument :: behind)) :
    ¬Surplus method parameters before argument cause := by
  rintro (hunknown | hagain | ⟨hbefore, hlength⟩ | ⟨other, hother, hname⟩)
  · exact hunknown (fills_append_named_iff.mp h).2.2.1
  · have honce := h.once
    rw [givenNames_append_named, List.nodup_append] at honce
    exact honce.2.2 _ hagain _ List.mem_cons_self rfl
  · have hroom := h.room
    rw [leading_append_of_unnamed hbefore, leading_positional, List.length_append,
      List.length_cons, hlength] at hroom
    omega
  · obtain ⟨front, rest, rfl⟩ := List.append_of_mem hother
    obtain ⟨_ | name, value, span⟩ := other
    · cases hname
    · rw [List.append_assoc, List.cons_append] at h
      have hlater := (fills_append_named_iff.mp h).1
      have hsome := hlater _ (List.mem_append_right rest List.mem_cons_self)
      exact absurd hsome Bool.false_ne_true

theorem not_atFault_of_fills (h : Fills parameters call.arguments) (place : Nat)
    (error : ScriptError) : ¬AtFault call parameters place error := by
  rintro ⟨argument, hargument, hsurplus, -⟩
  obtain ⟨hlt, hget⟩ := List.getElem?_eq_some_iff.mp hargument
  rw [← List.take_append_drop place call.arguments, List.drop_eq_getElem_cons hlt, hget] at h
  exact not_surplus_of_fills h hsurplus

/-- Arguments that cannot be added have a first at fault. -/
theorem exists_atFault_of_add {error : ScriptError} (hnodup : (parameters.map (·.name)).Nodup)
    (h : add call.method parameters [] parameters call.arguments = .error error) :
    ∃ place, AtFault call parameters place error ∧
      ∀ earlier < place, ∀ other, ¬AtFault call parameters earlier other := by
  rw [← @entries_nil parameters] at h
  obtain ⟨before, argument, behind, harguments, hfills, hsurplus, hspan⟩ :=
    @exists_surplus_of_add parameters call.method [] call.arguments error parameters [] hnodup
      (fun _ hmem => absurd hmem List.not_mem_nil) rfl rfl h
  rw [List.nil_append] at harguments
  have htake : call.arguments.take before.length = before := by
    rw [harguments, List.take_left]
  refine ⟨before.length, ⟨argument, ?_, htake.symm ▸ hsurplus, hspan⟩, ?_⟩
  · rw [harguments, List.getElem?_append_right (Nat.le_refl _), Nat.sub_self]
    rfl
  · rintro earlier hearlier other ⟨found, hfound, hother, hat⟩
    -- The arguments in front of the fault are those of a call that fills its parameters.
    refine @not_atFault_of_fills { call with arguments := before } _ hfills earlier other
      ⟨found, ?_, ?_, hat⟩
    · rwa [← htake, List.getElem?_take_of_lt hearlier]
    · rwa [← htake, List.take_take, Nat.min_eq_left (Nat.le_of_lt hearlier)]

/-- A call fails to be bound at the first argument at fault, or else for the first parameter that
lacks a value. -/
theorem ofCall_eq_error_cases {error : ScriptError} (hnodup : (parameters.map (·.name)).Nodup)
    (h : ofCall call parameters = .error error) :
    (∃ place, AtFault call parameters place error ∧
        ∀ earlier < place, ∀ other, ¬AtFault call parameters earlier other) ∨
      (∀ place other, ¬AtFault call parameters place other) ∧
        ∃ before parameter behind, parameters = before ++ parameter :: behind ∧
          Lacking parameters call.arguments parameter ∧
          (∀ earlier ∈ before, ¬Lacking parameters call.arguments earlier) ∧
          error = ⟨.missingArgument call.method parameter.name, call.span⟩ := by
  rw [ofCall] at h
  cases hadd : add call.method parameters [] parameters call.arguments with
  | error found =>
    rw [hadd] at h
    cases h
    exact .inl (exists_atFault_of_add hnodup hadd)
  | ok given =>
    obtain ⟨hfills, rfl⟩ := (add_eq_ok_iff_fills hnodup).mp hadd
    rw [hadd, ok_bind] at h
    dsimp only at h
    have hlacking (parameter : Parameter) :
        (parameter.isRequired &&
            ((filled call parameters).value? parameter.name).isNone) = true ↔
          Lacking parameters call.arguments parameter := by
      rw [Bool.and_eq_true, Lacking, ← isSome_value?_filled_iff hfills, Option.isNone_iff_eq_none,
        Bool.not_eq_true, Option.isSome_eq_false_iff, Option.isNone_iff_eq_none]
    split at h
    · rename_i parameter hfound
      cases h
      obtain ⟨hparameter, before, behind, hparameters, hbefore⟩ :=
        List.find?_eq_some_iff_append.mp hfound
      refine .inr ⟨not_atFault_of_fills hfills, before, parameter, behind, hparameters,
        (hlacking parameter).mp hparameter, fun earlier hearlier hlacks => ?_, rfl⟩
      have hnot := hbefore earlier hearlier
      rw [Bool.not_eq_true'] at hnot
      exact absurd (hnot.symm.trans ((hlacking earlier).mpr hlacks)) Bool.false_ne_true
    · cases h

/-! ### Binding -/

/-- A call is bound exactly if no argument without a name stands behind one with a name, there are no
more of them than parameters, every name is that of a parameter, no parameter is given twice and each
required one is given a value other than `null`. Then the value of a parameter is that of the one
argument for it, and there is none where that is `null` or missing. A call that is not bound fails at
the first argument, from the left, that breaks a rule, and if there is none for the first required
parameter that lacks a value. -/
theorem arguments_bind_exactly (hnodup : (parameters.map (·.name)).Nodup) :
    ((∃ bound, ofCall call parameters = .ok bound) ↔ Binds parameters call.arguments) ∧
    (∀ bound, ofCall call parameters = .ok bound → ∀ name value,
      bound.value? name = some value ↔
        Gives parameters call.arguments name value ∧ value.isNull = false) ∧
    ∀ error, ofCall call parameters = .error error →
      (∃ place, AtFault call parameters place error ∧
        ∀ earlier < place, ∀ other, ¬AtFault call parameters earlier other) ∨
      (∀ place other, ¬AtFault call parameters place other) ∧
        ∃ before parameter behind, parameters = before ++ parameter :: behind ∧
          Lacking parameters call.arguments parameter ∧
          (∀ earlier ∈ before, ¬Lacking parameters call.arguments earlier) ∧
          error = ⟨.missingArgument call.method parameter.name, call.span⟩ := by
  refine ⟨?_, fun bound hbound name value => ?_, fun error => ofCall_eq_error_cases hnodup⟩
  · rw [binds_iff]
    simp only [ofCall_eq_ok_iff hnodup]
    constructor
    · rintro ⟨bound, hfills, -, hrequired⟩
      refine ⟨hfills, fun parameter hmem hparameter => ?_⟩
      exact (isSome_value?_filled_iff hfills).mp (hrequired parameter hmem hparameter)
    · rintro ⟨hfills, hsupplied⟩
      refine ⟨filled call parameters, hfills, rfl, fun parameter hmem hparameter => ?_⟩
      exact (isSome_value?_filled_iff hfills).mpr (hsupplied parameter hmem hparameter)
  · obtain ⟨hfills, rfl, -⟩ := (ofCall_eq_ok_iff hnodup).mp hbound
    exact value?_filled_eq_some_iff hfills

end Values

/-- A schema that is given as `null` and then by its name, in front of a table that is `null`. -/
def schemaTwice : Call :=
  ⟨"mb", "DropColumn",
    [⟨none, .constant (.string "A") default, default⟩, ⟨none, .constant .null default, default⟩,
      ⟨some "schema", .constant (.string "dbo") default, default⟩,
      ⟨some "table", .constant .null default, default⟩], default⟩

/-- The schema is at fault, although the table is missing too. -/
theorem arguments_bind_exactly_schemaTwice :
    (Parameter.tableMember.map (·.name)).Nodup ∧
      ¬Binds Parameter.tableMember schemaTwice.arguments ∧
      ∃ place, AtFault schemaTwice Parameter.tableMember place
          ⟨.duplicateArgument "DropColumn" "schema", default⟩ ∧
        ∀ earlier < place, ∀ other, ¬AtFault schemaTwice Parameter.tableMember earlier other := by
  have hnodup : (Parameter.tableMember.map (·.name)).Nodup := by decide
  have hfails : ofCall schemaTwice Parameter.tableMember =
      .error ⟨.duplicateArgument "DropColumn" "schema", default⟩ := rfl
  obtain ⟨hiff, -, herror⟩ := @arguments_bind_exactly schemaTwice _ hnodup
  refine ⟨hnodup, fun hbinds => ?_, ?_⟩
  · obtain ⟨bound, hbound⟩ := hiff.mpr hbinds
    cases hfails.symm.trans hbound
  · obtain hfault | ⟨-, _, _, _, -, -, -, hmissing⟩ := herror _ hfails
    · exact hfault
    · cases hmissing

end Bound

end MigrationScript
