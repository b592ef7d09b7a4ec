import MigrationScript.Double.Basic

namespace MigrationScript

/-- What a foreign key does when the referenced row changes. -/
inductive ReferentialAction
  | noAction
  | restrict
  | cascade
  | setNull
  | setDefault
  deriving DecidableEq, Repr

namespace ReferentialAction

instance : Inhabited ReferentialAction := ⟨.noAction⟩

def name : ReferentialAction → String
  | .noAction => "NoAction"
  | .restrict => "Restrict"
  | .cascade => "Cascade"
  | .setNull => "SetNull"
  | .setDefault => "SetDefault"

def all : List ReferentialAction :=
  [.noAction, .restrict, .cascade, .setNull, .setDefault]

def ofName? (name : String) : Option ReferentialAction :=
  all.find? fun action => action.name == name

theorem ofName?_eq_some_iff {name : String} {action : ReferentialAction} :
    ofName? name = some action ↔ action.name = name := by
  constructor
  · intro h
    have := List.find?_some h
    exact beq_iff_eq.1 this
  · rintro rfl
    cases action <;> decide

def unknownMessage (name : String) : String :=
  s!"unknown referential action \x60{name}\x60"

end ReferentialAction

/-- The value of a column in rows that do not give one. The two integer forms are told apart. -/
inductive DefaultValue
  | bool (value : Bool)
  | int (value : Int32)
  | long (value : Int64)
  | double (value : Double)
  | string (value : String)
  deriving DecidableEq

namespace DefaultValue

/-- Equality that compares doubles as numbers. -/
def same : DefaultValue → DefaultValue → Bool
  | .double a, .double b => a.same b
  | a, b => a == b

def isNaN : DefaultValue → Bool
  | .double value => value.isNaN
  | _ => false

end DefaultValue

end MigrationScript
