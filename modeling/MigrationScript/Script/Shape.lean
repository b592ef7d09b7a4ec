import MigrationScript.Operation.Kind

namespace MigrationScript

/-- Each argument on a line of its own, or all on the line of the call. -/
inductive Arrangement
  | block
  | inline
  deriving DecidableEq

/-- Arguments with their names; a single one may go without. -/
inductive Naming
  | named
  | positionalWhenAlone
  deriving DecidableEq

structure CallShape where
  method : String
  arrangement : Arrangement
  naming : Naming
  deriving DecidableEq

def Kind.shape (kind : Kind) : CallShape :=
  match kind with
  | .createSchema | .dropSchema | .dropSequence | .dropTable =>
    ⟨kind.method, .inline, .positionalWhenAlone⟩
  | .dropColumn | .dropForeignKey | .dropIndex | .dropPrimaryKey | .dropUniqueConstraint =>
    ⟨kind.method, .inline, .named⟩
  | .sql => ⟨kind.method, .block, .positionalWhenAlone⟩
  | _ => ⟨kind.method, .block, .named⟩

end MigrationScript
