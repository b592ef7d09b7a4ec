import MigrationScript.Meaning.Statement
import MigrationScript.Proofs.Meaning.Binding
import MigrationScript.Proofs.Script.Program

namespace MigrationScript

open WrittenArgument

theorem WrittenValue.tree_ne_null (value : WrittenValue) (span : Span) :
    value.tree ≠ .constant .null span := by
  cases value with
  | constant value =>
    cases value with
    | double value =>
      rw [tree, DefaultValue.tree, Double.tree]
      split
      · exact Expr.noConfusion
      split
      · exact Expr.noConfusion
      · exact fun heq => Constant.noConfusion (Expr.constant.inj heq).1
    | _ => exact fun heq => Constant.noConfusion (Expr.constant.inj heq).1
  | _ => exact Expr.noConfusion

namespace Bound

/-- A call whose arguments are bound to the parameters of their names. -/
def written (call : Call) (arguments : List WrittenArgument) : Bound :=
  ⟨call, arguments.map fun argument => (argument.name, argument.value.tree)⟩

variable {call : Call} {arguments : List WrittenArgument} {name : String}

theorem value?_written :
    (written call arguments).value? name = (valueOf arguments name).map (·.tree) := by
  have hlookup : (written call arguments).given.lookup name =
      (valueOf arguments name).map (·.tree) := by
    unfold written valueOf
    induction arguments with
    | nil => rfl
    | cons argument rest ih =>
      rw [List.map_cons, List.lookup_cons, List.find?_cons, ih, BEq.comm]
      cases argument.name == name <;> rfl
  rw [value?, hlookup]
  cases valueOf arguments name with
  | none => rfl
  | some value =>
    rw [Option.map_some]
    split
    · rename_i heq
      exact absurd (Option.some.inj heq) (value.tree_ne_null _)
    · rfl

/-! ### Binding -/

/-- A value under the name of its parameter. -/
def named (entry : String × Expr) : Argument :=
  ⟨some entry.1, entry.2, default⟩

variable {method : String} {parameters : List Parameter} {given : List (String × Expr)}

theorem leading_map_named : leading (given.map named) = [] := by
  cases given <;> rfl

theorem behind_map_named : behind (given.map named) = given.map named := by
  cases given <;> rfl

theorem namedEntries_map_named : namedEntries (given.map named) = given := by
  rw [namedEntries, List.filterMap_map]
  exact List.filterMap_some

theorem entries_map_named : entries parameters (given.map named) = given := by
  rw [entries, leading_map_named, List.map_nil, List.zip_nil_right, List.nil_append,
    namedEntries_map_named]

theorem fills_map_named (hsublist : (given.map (·.1)).Sublist (parameters.map (·.name)))
    (hnodup : (parameters.map (·.name)).Nodup) : Fills parameters (given.map named) where
  room := by
    rw [leading_map_named]
    exact Nat.zero_le _
  named := by
    rw [behind_map_named]
    exact List.forall_mem_map.mpr fun _ _ => rfl
  known := by
    rw [namedEntries_map_named]
    exact fun entry hmem => hsublist.subset (List.mem_map_of_mem hmem)
  once := by
    rw [givenNames, entries_map_named]
    exact hnodup.sublist hsublist

/-- Values under the names of parameters are added as they are. -/
theorem add_map_named (hsublist : (given.map (·.1)).Sublist (parameters.map (·.name)))
    (hnodup : (parameters.map (·.name)).Nodup) :
    add method parameters [] parameters (given.map named) = .ok given :=
  (add_eq_ok_iff_fills hnodup).mpr ⟨fills_map_named hsublist hnodup, entries_map_named.symm⟩

/-- The arguments of a call are bound as they are given, with or without the name of a single one
that is for the first parameter. -/
theorem ofCall_written {naming : Naming} (hcall : call.arguments = trees naming arguments)
    (hfits : Fits arguments parameters) (hnodup : (parameters.map (·.name)).Nodup)
    (hfirst : naming = .named ∨
      (arguments.map (·.name)).head? = (parameters.map (·.name)).head?) :
    ofCall call parameters = .ok (written call arguments) := by
  have hnamed (arguments : List WrittenArgument) (hfits : Fits arguments parameters) :
      add call.method parameters [] parameters (arguments.map (·.tree)) =
        .ok (written call arguments).given := by
    have htrees : arguments.map (·.tree) = (written call arguments).given.map named := by
      rw [written, List.map_map]
      rfl
    rw [htrees]
    refine add_map_named ?_ hnodup
    rw [written, List.map_map]
    exact hfits.sublist
  refine ofCall_eq_ok ?_ fun parameter hmem hrequired => ?_
  · rw [hcall]
    -- Only a single argument goes without its name, and then the first parameter is its own.
    match naming, arguments with
    | .positionalWhenAlone, [argument] =>
      obtain hnaming | hhead := hfirst
      · cases hnaming
      · cases parameters with
        | nil => cases hhead
        | cons parameter parameters =>
          have hname : argument.name = parameter.name := Option.some.inj hhead
          rw [trees, add_positional, add_nil, List.map_cons, hname]
          rfl
    | .named, arguments => exact hnamed _ hfits
    | .positionalWhenAlone, [] => exact hnamed _ hfits
    | .positionalWhenAlone, _ :: _ :: _ => exact hnamed _ hfits
  · have hvalue : (written call arguments).value? parameter.name =
        (valueOf arguments parameter.name).map (·.tree) := value?_written
    unfold written at hvalue
    rw [hvalue, Option.isSome_map]
    exact hfits.isSome_valueOf parameter hmem hrequired

end Bound

end MigrationScript
