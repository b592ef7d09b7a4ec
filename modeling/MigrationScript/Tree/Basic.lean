import MigrationScript.Double.Basic
import MigrationScript.Span

namespace MigrationScript

/-- A value that is written out. An integer keeps its sign and whether it is marked as long. -/
inductive Constant
  | integer (value : Int) (isLong : Bool)
  | double (value : Double)
  | string (value : String)
  | bool (value : Bool)
  | null
  deriving DecidableEq

mutual

/-- An expression. The body of a function is an expression or a block of statements. -/
inductive Expr
  | constant (value : Constant) (span : Span)
  | path (segments : List String) (span : Span)
  | array (items : List Expr) (span : Span)
  | object (members : List Member) (span : Span)
  | function (parameter : String) (body : Expr) (span : Span)
  | block (parameter : String) (statements : List Call) (span : Span)
  | call (call : Call)

structure Call where
  target : String
  method : String
  arguments : List Argument
  span : Span

/-- An argument, which may say which parameter it is for. -/
structure Argument where
  name : Option String
  value : Expr
  span : Span

/-- A member of an object: a value under a name, or a path. -/
inductive Member
  | named (name : String) (value : Expr) (span : Span)
  | path (segments : List String) (span : Span)

end

instance : Inhabited Expr := ⟨.constant .null default⟩

def Expr.span : Expr → Span
  | .constant _ span | .path _ span | .array _ span | .object _ span | .function _ _ span
  | .block _ _ span => span
  | .call nested => nested.span

def Member.span : Member → Span
  | .named _ _ span | .path _ span => span

end MigrationScript
