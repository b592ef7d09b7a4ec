import MigrationScript.Double.Basic

namespace MigrationScript

/-- JSON values. An object keeps its members as they are written: in order, and each as often as it
is given. -/
inductive Json
  | null
  | bool (value : Bool)
  | integer (value : Int)
  | real (value : Double)
  | string (value : String)
  | array (items : List Json)
  | object (members : List (String × Json))
  deriving Inhabited

namespace Json

/-- How often a name is given. -/
def occurrences (name : String) (members : List (String × Json)) : Nat :=
  (members.map (·.1)).count name

/-- What text can give of a value: null stands for the doubles that are not finite. -/
def asWritten : Json → Json
  | .null => .null
  | .bool value => .bool value
  | .integer value => .integer value
  | .real value => if value.isFinite then .real value else .null
  | .string value => .string value
  | .array items => .array (items.map asWritten)
  | .object members => .object (members.map fun member => (member.1, asWritten member.2))
decreasing_by
  · rename_i hmem
    have hlt := List.sizeOf_lt_of_mem hmem
    simp only [array.sizeOf_spec]
    omega
  · rename_i hmem
    have hlt := List.sizeOf_lt_of_mem hmem
    obtain ⟨name, value⟩ := member
    simp only [object.sizeOf_spec, Prod.mk.sizeOf_spec] at hlt ⊢
    omega

/-- An integer that a number of 64 bits holds, with or without a sign. -/
def InRange (value : Int) : Prop :=
  -9223372036854775808 ≤ value ∧ value ≤ 18446744073709551615

/-- The value nests to a depth at most, its integers have at most 64 bits, and each of its doubles
is one that can be read. -/
inductive Fits (reads : Double → Prop) : Nat → Json → Prop
  | null {depth : Nat} : Fits reads depth .null
  | bool {depth : Nat} (value : Bool) : Fits reads depth (.bool value)
  | integer {depth : Nat} {value : Int} (h : InRange value) : Fits reads depth (.integer value)
  | real {depth : Nat} {value : Double} (h : reads value) : Fits reads depth (.real value)
  | string {depth : Nat} (value : String) : Fits reads depth (.string value)
  | array {depth : Nat} {items : List Json} (h : ∀ item ∈ items, Fits reads depth item) :
      Fits reads (depth + 1) (.array items)
  | object {depth : Nat} {members : List (String × Json)}
      (h : ∀ member ∈ members, Fits reads depth member.2) :
      Fits reads (depth + 1) (.object members)

end Json

end MigrationScript
