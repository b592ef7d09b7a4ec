import MigrationScript.Tree.Basic

namespace MigrationScript

variable (change : Span → Span)

mutual

/-- The tree with every span changed in the same way. -/
def Expr.mapSpans : Expr → Expr
  | .constant value span => .constant value (change span)
  | .path segments span => .path segments (change span)
  | .array items span => .array (mapItems items) (change span)
  | .object members span => .object (mapMembers members) (change span)
  | .function parameter body span => .function parameter body.mapSpans (change span)
  | .block parameter statements span => .block parameter (mapCalls statements) (change span)
  | .call nested => .call nested.mapSpans

def Call.mapSpans : Call → Call
  | ⟨target, method, arguments, span⟩ => ⟨target, method, mapArguments arguments, change span⟩

def Argument.mapSpans : Argument → Argument
  | ⟨name, value, span⟩ => ⟨name, value.mapSpans, change span⟩

def Member.mapSpans : Member → Member
  | .named name value span => .named name value.mapSpans (change span)
  | .path segments span => .path segments (change span)

def mapItems : List Expr → List Expr
  | [] => []
  | first :: rest => first.mapSpans :: mapItems rest

def mapMembers : List Member → List Member
  | [] => []
  | first :: rest => first.mapSpans :: mapMembers rest

def mapCalls : List Call → List Call
  | [] => []
  | first :: rest => first.mapSpans :: mapCalls rest

def mapArguments : List Argument → List Argument
  | [] => []
  | first :: rest => first.mapSpans :: mapArguments rest

end

@[simp]
theorem mapItems_eq_map (items : List Expr) :
    mapItems change items = items.map (Expr.mapSpans change) := by
  induction items with
  | nil => rfl
  | cons first rest ih => rw [mapItems, ih, List.map_cons]

@[simp]
theorem mapMembers_eq_map (members : List Member) :
    mapMembers change members = members.map (Member.mapSpans change) := by
  induction members with
  | nil => rfl
  | cons first rest ih => rw [mapMembers, ih, List.map_cons]

@[simp]
theorem mapCalls_eq_map (calls : List Call) :
    mapCalls change calls = calls.map (Call.mapSpans change) := by
  induction calls with
  | nil => rfl
  | cons first rest ih => rw [mapCalls, ih, List.map_cons]

@[simp]
theorem mapArguments_eq_map (arguments : List Argument) :
    mapArguments change arguments = arguments.map (Argument.mapSpans change) := by
  induction arguments with
  | nil => rfl
  | cons first rest ih => rw [mapArguments, ih, List.map_cons]

section Fields

variable {change}

@[simp]
theorem Expr.span_mapSpans (expr : Expr) : (expr.mapSpans change).span = change expr.span := by
  cases expr with
  | call nested => cases nested; rfl
  | _ => rfl

@[simp]
theorem Call.target_mapSpans (call : Call) : (call.mapSpans change).target = call.target := by
  cases call; rfl

@[simp]
theorem Call.method_mapSpans (call : Call) : (call.mapSpans change).method = call.method := by
  cases call; rfl

@[simp]
theorem Call.arguments_mapSpans (call : Call) :
    (call.mapSpans change).arguments = call.arguments.map (Argument.mapSpans change) := by
  cases call; exact mapArguments_eq_map change _

@[simp]
theorem Call.span_mapSpans (call : Call) : (call.mapSpans change).span = change call.span := by
  cases call; rfl

@[simp]
theorem Argument.name_mapSpans (argument : Argument) :
    (argument.mapSpans change).name = argument.name := by
  cases argument; rfl

@[simp]
theorem Argument.value_mapSpans (argument : Argument) :
    (argument.mapSpans change).value = argument.value.mapSpans change := by
  cases argument; rfl

@[simp]
theorem Argument.span_mapSpans (argument : Argument) :
    (argument.mapSpans change).span = change argument.span := by
  cases argument; rfl

end Fields

/-! ### Without spans -/

/-- The tree with all spans made the same. -/
abbrev Expr.eraseSpans : Expr → Expr :=
  Expr.mapSpans fun _ => default

abbrev Call.eraseSpans : Call → Call :=
  Call.mapSpans fun _ => default

abbrev Argument.eraseSpans : Argument → Argument :=
  Argument.mapSpans fun _ => default

abbrev Member.eraseSpans : Member → Member :=
  Member.mapSpans fun _ => default

end MigrationScript
