import MigrationScript.Operation.Basic

namespace MigrationScript

def sameDefault : Option DefaultValue → Option DefaultValue → Bool
  | some a, some b => a.same b
  | none, none => true
  | _, _ => false

def Column.same (a b : Column) : Bool :=
  { a with defaultValue := none } == { b with defaultValue := none } &&
    sameDefault a.defaultValue b.defaultValue

def sameColumns : List Column → List Column → Bool
  | [], [] => true
  | a :: as, b :: bs => a.same b && sameColumns as bs
  | _, _ => false

def Table.same (a b : Table) : Bool :=
  { a with columns := [] } == { b with columns := [] } && sameColumns a.columns b.columns

def Operation.same : Operation → Operation → Bool
  | .addColumn a, .addColumn b => a.same b
  | .alterColumn a, .alterColumn b => a.same b
  | .createTable a, .createTable b => a.same b
  | a, b => a == b

def sameOperations : List Operation → List Operation → Bool
  | [], [] => true
  | a :: as, b :: bs => a.same b && sameOperations as bs
  | _, _ => false

end MigrationScript
