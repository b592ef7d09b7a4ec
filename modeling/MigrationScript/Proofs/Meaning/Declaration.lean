import MigrationScript.Proofs.Meaning.Binding
import MigrationScript.Proofs.Meaning.Run

/-!
# Declarations of tables

What the functions of a table declare is told by their members and statements, with a rule for each
form. The reader follows an order and stops at the first error; the rules know of neither.
-/

namespace MigrationScript

/-! ### Declarations -/

/-- A table, which may not have been read yet, by its name and its schema. -/
abbrev Owner := String × Option String

def Table.owner (table : Table) : Owner :=
  (table.name, table.schema)

def Column.owner (column : Column) : Owner :=
  (column.table, column.schema)

def Key.owner (key : Key) : Owner :=
  (key.table, key.schema)

def ForeignKey.owner (key : ForeignKey) : Owner :=
  (key.table, key.schema)

namespace Bound

/-- The values of the parameters are the options of the column; at most one of the two defaults is
given. -/
structure GivesOptions (bound : Bound) (column : Column) : Prop where
  oneDefault : ¬((bound.value? "defaultValue").isSome = true ∧
    (bound.value? "defaultExpression").isSome = true)
  nullable : ∃ given, bound.optional Expr.toBool "nullable" = .ok given ∧
    column.isNullable = given.getD false
  defaultValue : bound.optional Expr.toDefault "defaultValue" = .ok column.defaultValue
  defaultExpression : bound.optional Expr.toText "defaultExpression" = .ok column.defaultExpression

/-- The values of the parameters are what the foreign key references. -/
structure GivesReference (bound : Bound) (key : ForeignKey) : Prop where
  referencedSchema : bound.optional Expr.toText "referencedSchema" = .ok key.referencedSchema
  referencedTable : bound.required Expr.toText "referencedTable" = .ok key.referencedTable
  referencedColumns :
    bound.columns "referencedColumn" "referencedColumns" = .ok key.referencedColumns
  onUpdate : ∃ given, bound.optional Expr.toAction "onUpdate" = .ok given ∧
    key.onUpdate = given.getD .noAction
  onDelete : ∃ given, bound.optional Expr.toAction "onDelete" = .ok given ∧
    key.onDelete = given.getD .noAction

end Bound

/-- The call declares the column: it is a call of `Column` on the parameter of the function, and its
arguments are bound and have values that can be read. Without a name the column has its identifier. -/
structure Call.DeclaresColumn (owner : Owner) (parameter identifier : String) (call : Call)
    (column : Column) : Prop where
  target : call.target = parameter
  method : call.method = "Column"
  belongs : column.owner = owner
  reads : ∃ bound, Bound.ofCall call Parameter.declaredColumn = .ok bound ∧
    (∃ given, bound.optional Expr.toText "name" = .ok given ∧
      column.name = given.getD identifier) ∧
    bound.required Expr.toText "type" = .ok column.type ∧ bound.GivesOptions column

/-- The member declares the column under the identifier. -/
inductive Member.Declares (owner : Owner) (parameter : String) : Member → String × Column → Prop
  | named {identifier : String} {call : Call} {span : Span} {column : Column} :
    call.DeclaresColumn owner parameter identifier column →
    Member.Declares owner parameter (.named identifier (.call call) span) (identifier, column)

/-- The function gives an object of members that each declare a column; no two have the same
identifier. -/
inductive Expr.DeclaresColumns (owner : Owner) : Expr → DeclaredColumns → Prop
  | object {parameter : String} {members : List Member} {declared : DeclaredColumns}
    {span span' : Span} : List.Forall₂ (Member.Declares owner parameter) members declared →
    (declared.map (·.1)).Nodup →
    Expr.DeclaresColumns owner (.function parameter (.object members span) span') declared

/-- The path is the parameter and an identifier, and the name is that of the column declared under
it. -/
inductive SelectsPath (declared : DeclaredColumns) (parameter : String) :
    List String → String → Prop
  | column {identifier : String} {column : Column} : (identifier, column) ∈ declared →
    SelectsPath declared parameter [parameter, identifier] column.name

inductive Member.Selects (declared : DeclaredColumns) (parameter : String) :
    Member → String → Prop
  | path {segments : List String} {name : String} {span : Span} :
    SelectsPath declared parameter segments name →
    Member.Selects declared parameter (.path segments span) name

/-- The function selects columns by one path or by an object of paths; these are their names. -/
inductive Expr.Selects (declared : DeclaredColumns) : Expr → List String → Prop
  | path {parameter name : String} {segments : List String} {span span' : Span} :
    SelectsPath declared parameter segments name →
    Expr.Selects declared (.function parameter (.path segments span) span') [name]
  | object {parameter : String} {members : List Member} {names : List String} {span span' : Span} :
    List.Forall₂ (Member.Selects declared parameter) members names →
    Expr.Selects declared (.function parameter (.object members span) span') names

/-- The arguments of the call give the name and the columns of the key. -/
structure Call.DeclaresKey (owner : Owner) (declared : DeclaredColumns) (call : Call)
    (key : Key) : Prop where
  belongs : key.owner = owner
  reads : ∃ bound selector, Bound.ofCall call Parameter.declaredKey = .ok bound ∧
    bound.required Expr.toText "name" = .ok key.name ∧
    bound.required Expr.toFunction "columns" = .ok selector ∧ selector.Selects declared key.columns

structure Call.DeclaresForeignKey (owner : Owner) (declared : DeclaredColumns) (call : Call)
    (key : ForeignKey) : Prop where
  belongs : key.owner = owner
  reads : ∃ bound selector, Bound.ofCall call Parameter.declaredForeignKey = .ok bound ∧
    bound.required Expr.toText "name" = .ok key.name ∧
    bound.required Expr.toFunction "columns" = .ok selector ∧
    selector.Selects declared key.columns ∧ bound.GivesReference key

/-- A constraint of a table. -/
inductive Constraint
  | primaryKey (key : Key)
  | foreignKey (key : ForeignKey)
  | unique (key : Key)

namespace Constraint

@[simp]
def primaryKey? : Constraint → Option Key
  | .primaryKey key => some key
  | .foreignKey _ | .unique _ => none

@[simp]
def foreignKey? : Constraint → Option ForeignKey
  | .foreignKey key => some key
  | .primaryKey _ | .unique _ => none

@[simp]
def unique? : Constraint → Option Key
  | .unique key => some key
  | .primaryKey _ | .foreignKey _ => none

end Constraint

/-- The call declares the constraint that its method is for, on the parameter of the function. -/
inductive Call.Declares (owner : Owner) (declared : DeclaredColumns) (parameter : String) :
    Call → Constraint → Prop
  | primaryKey {call : Call} {key : Key} : call.target = parameter → call.method = "PrimaryKey" →
    call.DeclaresKey owner declared key →
    Call.Declares owner declared parameter call (.primaryKey key)
  | foreignKey {call : Call} {key : ForeignKey} : call.target = parameter →
    call.method = "ForeignKey" → call.DeclaresForeignKey owner declared key →
    Call.Declares owner declared parameter call (.foreignKey key)
  | unique {call : Call} {key : Key} : call.target = parameter → call.method = "Unique" →
    call.DeclaresKey owner declared key → Call.Declares owner declared parameter call (.unique key)

/-- The function has a block of statements that each declare a constraint. Without a function there
are none. -/
inductive DeclaresConstraints (owner : Owner) (declared : DeclaredColumns) :
    Option Expr → List Constraint → Prop
  | none : DeclaresConstraints owner declared none []
  | block {parameter : String} {statements : List Call} {constraints : List Constraint}
    {span : Span} :
    List.Forall₂ (Call.Declares owner declared parameter) statements constraints →
    DeclaresConstraints owner declared (some (.block parameter statements span)) constraints

/-- The table with the columns and the constraints, each kind of constraint in their order. -/
def Table.ofDeclared (owner : Owner) (declared : DeclaredColumns) (constraints : List Constraint) :
    Table where
  name := owner.1
  schema := owner.2
  columns := declared.map (·.2)
  primaryKey := constraints.findSome? (·.primaryKey?)
  foreignKeys := constraints.filterMap (·.foreignKey?)
  uniqueConstraints := constraints.filterMap (·.unique?)

/-- At most one of the constraints is a primary key. -/
def OnePrimaryKey (constraints : List Constraint) : Prop :=
  (constraints.filterMap (·.primaryKey?)).length ≤ 1

/-- The functions declare the table: one column for each member, and one constraint for each
statement, of which at most one is a primary key. -/
def DeclareTable (owner : Owner) (columns : Expr) (block : Option Expr) (table : Table) : Prop :=
  ∃ declared constraints, columns.DeclaresColumns owner declared ∧
    DeclaresConstraints owner declared block constraints ∧ OnePrimaryKey constraints ∧
    table = Table.ofDeclared owner declared constraints

theorem Expr.DeclaresColumns.nodup {owner : Owner} {function : Expr} {declared : DeclaredColumns}
    (h : function.DeclaresColumns owner declared) : (declared.map (·.1)).Nodup := by
  cases h
  assumption

theorem Call.Declares.target_eq {owner : Owner} {declared : DeclaredColumns} {parameter : String}
    {call : Call} {constraint : Constraint} (h : call.Declares owner declared parameter constraint) :
    call.target = parameter := by
  cases h <;> assumption

/-! ### Columns -/

theorem Call.addresses_eq_ok_iff {call : Call} {target : String} {value : Unit} :
    call.addresses target = .ok value ↔ call.target = target := by
  unfold addresses
  split
  · exact iff_of_true rfl ‹_›
  · exact iff_of_false nofun ‹_›

namespace Bound

variable {bound : Bound}

theorem columnOptions_eq_ok_iff {base column : Column} :
    bound.columnOptions base = .ok column ↔
      (column.name = base.name ∧ column.schema = base.schema ∧ column.table = base.table ∧
        column.type = base.type) ∧ bound.GivesOptions column := by
  simp only [columnOptions, except_bind_eq_ok, exclusive_eq_ok_iff, pure, Except.pure,
    Except.ok.injEq]
  constructor
  · rintro ⟨-, hone, given, hnullable, value, hvalue, expression, hexpression, rfl⟩
    exact ⟨⟨rfl, rfl, rfl, rfl⟩, hone, ⟨given, hnullable, rfl⟩, hvalue, hexpression⟩
  · rintro ⟨⟨hname, hschema, htable, htype⟩, hone, ⟨given, hnullable, heq⟩, hvalue, hexpression⟩
    refine ⟨(), hone, given, hnullable, _, hvalue, _, hexpression, ?_⟩
    rw [← hname, ← hschema, ← htable, ← htype, ← heq]

theorem reference_eq_ok_iff {base key : ForeignKey} :
    bound.reference base = .ok key ↔
      (key.name = base.name ∧ key.schema = base.schema ∧ key.table = base.table ∧
        key.columns = base.columns) ∧ bound.GivesReference key := by
  simp only [reference, except_bind_eq_ok, pure, Except.pure, Except.ok.injEq]
  constructor
  · rintro ⟨_, hschema, _, htable, _, hcolumns, update, hupdate, delete, hdelete, rfl⟩
    exact ⟨⟨rfl, rfl, rfl, rfl⟩, hschema, htable, hcolumns, ⟨update, hupdate, rfl⟩,
      delete, hdelete, rfl⟩
  · rintro ⟨⟨hname, hschema, htable, hcolumns⟩, hreferencedSchema, hreferencedTable,
      hreferencedColumns, ⟨update, hupdate, heqUpdate⟩, delete, hdelete, heqDelete⟩
    refine ⟨_, hreferencedSchema, _, hreferencedTable, _, hreferencedColumns, update, hupdate,
      delete, hdelete, ?_⟩
    rw [← hname, ← hschema, ← htable, ← hcolumns, ← heqUpdate, ← heqDelete]

end Bound

namespace Table

variable {table : Table} {owner : Owner} {parameter identifier : String}
  {declared : DeclaredColumns}

theorem column_eq_ok_iff {call : Call} {column : Column} :
    table.column parameter identifier call = .ok column ↔
      call.DeclaresColumn table.owner parameter identifier column := by
  simp only [Table.column, except_bind_eq_ok, Call.addresses_eq_ok_iff]
  constructor
  · rintro ⟨-, htarget, h⟩
    split at h
    · cases h
    rename_i hmethod
    simp only [except_bind_eq_ok] at h
    obtain ⟨bound, hbound, given, hname, type, htype, hoptions⟩ := h
    obtain ⟨⟨heqName, heqSchema, heqTable, heqType⟩, hgives⟩ :=
      Bound.columnOptions_eq_ok_iff.mp hoptions
    exact ⟨htarget, not_not.mp hmethod, Prod.ext heqTable heqSchema, bound, hbound,
      ⟨given, hname, heqName⟩, heqType ▸ htype, hgives⟩
  · rintro ⟨htarget, hmethod, hbelongs, bound, hbound, ⟨given, hname, heqName⟩, htype, hgives⟩
    obtain ⟨heqTable, heqSchema⟩ := Prod.ext_iff.mp hbelongs
    refine ⟨(), htarget, ?_⟩
    rw [if_neg (not_not_intro hmethod)]
    simp only [except_bind_eq_ok]
    exact ⟨bound, hbound, given, hname, column.type, htype,
      Bound.columnOptions_eq_ok_iff.mpr ⟨⟨heqName, heqSchema, heqTable, rfl⟩, hgives⟩⟩

/-- A member adds the column that it declares, if its identifier is new. -/
theorem addColumn_eq_ok_iff {member : Member} {result : DeclaredColumns} :
    table.addColumn parameter declared member = .ok result ↔
      ∃ entry, member.Declares table.owner parameter entry ∧ entry.1 ∉ declared.map (·.1) ∧
        result = declared ++ [entry] := by
  constructor
  · intro h
    unfold addColumn at h
    split at h
    · cases h
    · rename_i identifier call span
      obtain ⟨column, hcolumn, h⟩ := except_bind_eq_ok.mp h
      split at h
      · cases h
      rename_i hfresh
      refine ⟨(identifier, column), .named (column_eq_ok_iff.mp hcolumn), fun hmem => ?_,
        (Except.ok.inj h).symm⟩
      exact hfresh (Bound.any_beq_eq_true_iff.mpr hmem)
    · cases h
  · rintro ⟨_, ⟨hdeclares⟩, hfresh, rfl⟩
    rename_i identifier call span column
    have hcolumn := column_eq_ok_iff.mpr hdeclares
    have hany : ¬declared.any (·.1 == identifier) = true := fun hany =>
      hfresh (Bound.any_beq_eq_true_iff.mp hany)
    simp only [addColumn, hcolumn, bind, Except.bind, if_neg hany]

theorem foldlM_addColumn_eq_ok_iff {members : List Member} :
    members.foldlM (table.addColumn parameter) [] = .ok declared ↔
      List.Forall₂ (Member.Declares table.owner parameter) members declared ∧
        (declared.map (·.1)).Nodup := by
  have hstep (before : DeclaredColumns) (member : Member) (result : DeclaredColumns)
      (hnodup : (before.map (·.1)).Nodup) :
      table.addColumn parameter before member = .ok result ↔
        ∃ entry, member.Declares table.owner parameter entry ∧
          ((before ++ [entry]).map (·.1)).Nodup ∧ result = before ++ [entry] := by
    have hfresh (entry : String × Column) :
        ((before ++ [entry]).map (·.1)).Nodup ↔ entry.1 ∉ before.map (·.1) := by
      rw [List.map_append, List.map_singleton, List.nodup_append_comm, List.singleton_append,
        List.nodup_cons, and_iff_left hnodup]
    simp only [addColumn_eq_ok_iff, hfresh]
  have hfront (before after : DeclaredColumns) (h : ((before ++ after).map (·.1)).Nodup) :
      (before.map (·.1)).Nodup := by
    rw [List.map_append] at h
    exact h.of_append_left
  have hnil : (([] : DeclaredColumns).map (·.1)).Nodup := List.nodup_nil
  refine (foldlM_eq_ok_iff hstep hfront hnil).trans ⟨?_, fun h => ?_⟩
  · rintro ⟨_, hmembers, hnodup, rfl⟩
    exact ⟨hmembers, hnodup⟩
  · exact ⟨declared, h.1, h.2, rfl⟩

theorem declaredColumns_eq_ok_iff {function : Expr} :
    table.declaredColumns function = .ok declared ↔
      function.DeclaresColumns table.owner declared := by
  unfold declaredColumns
  split
  · rw [foldlM_addColumn_eq_ok_iff]
    exact ⟨fun h => .object h.1 h.2, by rintro ⟨hmembers, hnodup⟩; exact ⟨hmembers, hnodup⟩⟩
  · rename_i hbody
    exact iff_of_false nofun (by rintro ⟨⟩; exact hbody _ _ rfl)
  · rename_i hfunction
    exact iff_of_false nofun (by rintro ⟨⟩; exact hfunction _ _ _ rfl)

/-! ### Selections -/

section Selections

variable (hnodup : (declared.map (·.1)).Nodup)

include hnodup

theorem selected_eq_ok_iff {segments : List String} {span : Span} {name : String} :
    selected declared parameter segments span = .ok name ↔
      SelectsPath declared parameter segments name := by
  constructor
  · intro h
    unfold selected at h
    split at h
    · split at h
      · rename_i hhead
        split at h
        · rename_i hlookup
          cases h
          exact hhead ▸ .column ((lookup_eq_some_iff_mem hnodup).mp hlookup)
        · cases h
      · cases h
    · cases h
  · rintro ⟨hmem⟩
    rw [selected, if_pos rfl, (lookup_eq_some_iff_mem hnodup).mpr hmem]

theorem selectedMember_eq_ok_iff {member : Member} {name : String} :
    selectedMember declared parameter member = .ok name ↔
      member.Selects declared parameter name := by
  cases member with
  | named => exact iff_of_false nofun nofun
  | path segments span =>
    rw [selectedMember, selected_eq_ok_iff hnodup]
    exact ⟨.path, by rintro ⟨h⟩; exact h⟩

theorem selection_eq_ok_iff {function : Expr} {names : List String} :
    selection declared function = .ok names ↔ function.Selects declared names := by
  unfold selection
  split
  · rw [except_bind_eq_ok]
    simp only [selected_eq_ok_iff hnodup]
    constructor
    · rintro ⟨name, hname, ⟨⟩⟩
      exact .path hname
    · rintro ⟨hname⟩
      exact ⟨_, hname, rfl⟩
  · rw [mapM_eq_ok_iff]
    simp only [selectedMember_eq_ok_iff hnodup]
    exact ⟨.object, by rintro (_ | hmembers); exact hmembers⟩
  · rename_i hpath hobject
    exact iff_of_false nofun (by rintro (_ | _); exacts [hpath _ _ rfl, hobject _ _ rfl])
  · rename_i hfunction
    exact iff_of_false nofun (by rintro (_ | _) <;> exact hfunction _ _ _ rfl)

/-! ### Constraints -/

theorem key_eq_ok_iff {call : Call} {key : Key} :
    table.key declared call = .ok key ↔ call.DeclaresKey table.owner declared key := by
  simp only [Table.key, except_bind_eq_ok, selection_eq_ok_iff hnodup, pure, Except.pure,
    Except.ok.injEq]
  constructor
  · rintro ⟨bound, hbound, name, hname, selector, hselector, columns, hselects, rfl⟩
    exact ⟨rfl, bound, selector, hbound, hname, hselector, hselects⟩
  · rintro ⟨hbelongs, bound, selector, hbound, hname, hselector, hselects⟩
    obtain ⟨heqTable, heqSchema⟩ := Prod.ext_iff.mp hbelongs
    refine ⟨bound, hbound, key.name, hname, selector, hselector, key.columns, hselects, ?_⟩
    rw [show table.schema = key.schema from heqSchema.symm,
      show table.name = key.table from heqTable.symm]

theorem foreignKey_eq_ok_iff {call : Call} {key : ForeignKey} :
    table.foreignKey declared call = .ok key ↔
      call.DeclaresForeignKey table.owner declared key := by
  simp only [Table.foreignKey, except_bind_eq_ok, selection_eq_ok_iff hnodup,
    Bound.reference_eq_ok_iff]
  constructor
  · rintro ⟨bound, hbound, name, hname, selector, hselector, columns, hselects,
      ⟨heqName, heqSchema, heqTable, heqColumns⟩, hgives⟩
    exact ⟨Prod.ext heqTable heqSchema, bound, selector, hbound, heqName ▸ hname, hselector,
      heqColumns ▸ hselects, hgives⟩
  · rintro ⟨hbelongs, bound, selector, hbound, hname, hselector, hselects, hgives⟩
    obtain ⟨heqTable, heqSchema⟩ := Prod.ext_iff.mp hbelongs
    exact ⟨bound, hbound, key.name, hname, selector, hselector, key.columns, hselects,
      ⟨rfl, heqSchema, heqTable, rfl⟩, hgives⟩

end Selections

/-! ### Tables -/

section Added

variable {before : List Constraint}

theorem onePrimaryKey_append_primaryKey_iff {key : Key} :
    OnePrimaryKey (before ++ [.primaryKey key]) ↔
      (ofDeclared owner declared before).primaryKey.isSome = false := by
  simp [OnePrimaryKey, ofDeclared]

theorem onePrimaryKey_append_foreignKey_iff {key : ForeignKey} :
    OnePrimaryKey (before ++ [.foreignKey key]) ↔ OnePrimaryKey before := by
  simp [OnePrimaryKey]

theorem onePrimaryKey_append_unique_iff {key : Key} :
    OnePrimaryKey (before ++ [.unique key]) ↔ OnePrimaryKey before := by
  simp [OnePrimaryKey]

theorem ofDeclared_append_primaryKey {key : Key}
    (h : (ofDeclared owner declared before).primaryKey.isSome = false) :
    ofDeclared owner declared (before ++ [.primaryKey key]) =
      { ofDeclared owner declared before with primaryKey := some key } := by
  have hnone : before.findSome? (·.primaryKey?) = none :=
    Option.not_isSome_iff_eq_none.mp (Bool.eq_false_iff.mp h)
  have hsome : (before ++ [Constraint.primaryKey key]).findSome? (·.primaryKey?) = some key := by
    rw [List.findSome?_append, hnone]
    rfl
  rw [ofDeclared, hsome]
  simp [ofDeclared]

theorem ofDeclared_append_foreignKey {key : ForeignKey} :
    ofDeclared owner declared (before ++ [.foreignKey key]) =
      { ofDeclared owner declared before with
        foreignKeys := (ofDeclared owner declared before).foreignKeys ++ [key] } := by
  simp [ofDeclared]

theorem ofDeclared_append_unique {key : Key} :
    ofDeclared owner declared (before ++ [.unique key]) =
      { ofDeclared owner declared before with
        uniqueConstraints := (ofDeclared owner declared before).uniqueConstraints ++ [key] } := by
  simp [ofDeclared]

/-- A statement that adds to a table adds one constraint, which it declares. -/
theorem exists_declares_of_addConstraint (hnodup : (declared.map (·.1)).Nodup)
    (hone : OnePrimaryKey before) {call : Call} {result : Table}
    (h : addConstraint parameter declared (ofDeclared owner declared before) call = .ok result) :
    ∃ constraint, call.Declares owner declared parameter constraint ∧
      OnePrimaryKey (before ++ [constraint]) ∧
      result = ofDeclared owner declared (before ++ [constraint]) := by
  have howner : (ofDeclared owner declared before).owner = owner := rfl
  unfold addConstraint at h
  obtain ⟨_, htarget, h⟩ := except_bind_eq_ok.mp h
  have htarget : call.target = parameter := Call.addresses_eq_ok_iff.mp htarget
  split at h
  · rename_i hmethod
    split at h
    · cases h
    rename_i hnone
    have hnone := Bool.eq_false_iff.mpr hnone
    obtain ⟨key, hkey, h⟩ := except_bind_eq_ok.mp h
    have hdeclares := howner ▸ (key_eq_ok_iff hnodup).mp hkey
    refine ⟨.primaryKey key, .primaryKey htarget hmethod hdeclares,
      onePrimaryKey_append_primaryKey_iff.mpr hnone, ?_⟩
    rw [ofDeclared_append_primaryKey hnone]
    exact (Except.ok.inj h).symm
  · rename_i hmethod
    obtain ⟨key, hkey, h⟩ := except_bind_eq_ok.mp h
    have hdeclares := howner ▸ (foreignKey_eq_ok_iff hnodup).mp hkey
    refine ⟨.foreignKey key, .foreignKey htarget hmethod hdeclares,
      onePrimaryKey_append_foreignKey_iff.mpr hone, ?_⟩
    rw [ofDeclared_append_foreignKey]
    exact (Except.ok.inj h).symm
  · rename_i hmethod
    obtain ⟨key, hkey, h⟩ := except_bind_eq_ok.mp h
    have hdeclares := howner ▸ (key_eq_ok_iff hnodup).mp hkey
    refine ⟨.unique key, .unique htarget hmethod hdeclares,
      onePrimaryKey_append_unique_iff.mpr hone, ?_⟩
    rw [ofDeclared_append_unique]
    exact (Except.ok.inj h).symm
  · cases h

theorem addConstraint_of_declares (hnodup : (declared.map (·.1)).Nodup) {call : Call}
    {constraint : Constraint} (hdeclares : call.Declares owner declared parameter constraint)
    (hone : OnePrimaryKey (before ++ [constraint])) :
    addConstraint parameter declared (ofDeclared owner declared before) call =
      .ok (ofDeclared owner declared (before ++ [constraint])) := by
  have haddresses : call.addresses parameter = .ok () :=
    Call.addresses_eq_ok_iff.mpr hdeclares.target_eq
  unfold addConstraint
  cases hdeclares with
  | @primaryKey key _ hmethod hkey =>
    have hnone : (ofDeclared owner declared before).primaryKey.isSome = false :=
      onePrimaryKey_append_primaryKey_iff.mp hone
    have hread : (ofDeclared owner declared before).key declared call = .ok key :=
      (key_eq_ok_iff hnodup).mpr hkey
    rw [haddresses, hmethod, ofDeclared_append_primaryKey hnone]
    simp only [bind, Except.bind, hnone, hread]
    rfl
  | @foreignKey key _ hmethod hkey =>
    have hread : (ofDeclared owner declared before).foreignKey declared call = .ok key :=
      (foreignKey_eq_ok_iff hnodup).mpr hkey
    rw [haddresses, hmethod, ofDeclared_append_foreignKey]
    simp only [bind, Except.bind, hread]
    rfl
  | @unique key _ hmethod hkey =>
    have hread : (ofDeclared owner declared before).key declared call = .ok key :=
      (key_eq_ok_iff hnodup).mpr hkey
    rw [haddresses, hmethod, ofDeclared_append_unique]
    simp only [bind, Except.bind, hread]
    rfl

/-- A statement adds the constraint that it declares, if that is no second primary key. -/
theorem addConstraint_eq_ok_iff (hnodup : (declared.map (·.1)).Nodup)
    (hone : OnePrimaryKey before) {call : Call} {result : Table} :
    addConstraint parameter declared (ofDeclared owner declared before) call = .ok result ↔
      ∃ constraint, call.Declares owner declared parameter constraint ∧
        OnePrimaryKey (before ++ [constraint]) ∧
        result = ofDeclared owner declared (before ++ [constraint]) := by
  refine ⟨exists_declares_of_addConstraint hnodup hone, ?_⟩
  rintro ⟨constraint, hdeclares, hone', rfl⟩
  exact addConstraint_of_declares hnodup hdeclares hone'

theorem foldlM_addConstraint_eq_ok_iff (hnodup : (declared.map (·.1)).Nodup)
    {statements : List Call} {result : Table} :
    statements.foldlM (addConstraint parameter declared) (ofDeclared owner declared []) =
        .ok result ↔
      ∃ constraints, List.Forall₂ (Call.Declares owner declared parameter) statements constraints ∧
        OnePrimaryKey constraints ∧ result = ofDeclared owner declared constraints := by
  have hfront (before after : List Constraint) (h : OnePrimaryKey (before ++ after)) :
      OnePrimaryKey before := by
    rw [OnePrimaryKey, List.filterMap_append, List.length_append] at h
    exact Nat.le_trans (Nat.le_add_right _ _) h
  have hnil : OnePrimaryKey [] := Nat.zero_le 1
  have hstep (before : List Constraint) (call : Call) (result : Table)
      (hone : OnePrimaryKey before) :
      addConstraint parameter declared (ofDeclared owner declared before) call = .ok result ↔
        ∃ constraint, call.Declares owner declared parameter constraint ∧
          OnePrimaryKey (before ++ [constraint]) ∧
          result = ofDeclared owner declared (before ++ [constraint]) :=
    addConstraint_eq_ok_iff hnodup hone
  exact foldlM_eq_ok_iff hstep hfront hnil

end Added

theorem addConstraints_eq_ok_iff (hnodup : (declared.map (·.1)).Nodup) {function : Expr}
    {result : Table} :
    addConstraints (ofDeclared owner declared []) declared function = .ok result ↔
      ∃ constraints, DeclaresConstraints owner declared (some function) constraints ∧
        OnePrimaryKey constraints ∧ result = ofDeclared owner declared constraints := by
  unfold addConstraints
  split
  · rw [foldlM_addConstraint_eq_ok_iff hnodup]
    refine exists_congr fun constraints => and_congr_left fun _ => ⟨.block, ?_⟩
    rintro ⟨⟩
    assumption
  · rename_i hblock
    exact iff_of_false nofun (by rintro ⟨_, ⟨⟩, -⟩; exact hblock _ _ _ rfl)

/-- The arguments of a table have a meaning exactly if their functions declare it. -/
theorem ofBound_eq_ok_iff {bound : Bound} {name : String} {schema : Option String} {columns : Expr}
    {block : Option Expr} {table : Table}
    (hname : bound.required Expr.toText "name" = .ok name)
    (hschema : bound.optional Expr.toText "schema" = .ok schema)
    (hcolumns : bound.required Expr.toFunction "columns" = .ok columns)
    (hblock : bound.optional Expr.toFunction "constraints" = .ok block) :
    ofBound bound = .ok table ↔ DeclareTable (name, schema) columns block table := by
  simp only [ofBound, hname, hschema, hcolumns, hblock, except_bind_eq_ok, Except.ok.injEq,
    exists_eq_left', declaredColumns_eq_ok_iff, DeclareTable, exists_and_left]
  refine exists_congr fun declared => and_congr_right fun hdeclared => ?_
  cases block with
  | some function =>
    change addConstraints (ofDeclared (name, schema) declared []) declared function = _ ↔ _
    exact addConstraints_eq_ok_iff hdeclared.nodup
  | none =>
    constructor
    · rintro ⟨⟩
      exact ⟨[], .none, Nat.zero_le 1, rfl⟩
    · rintro ⟨_, ⟨⟩, -, rfl⟩
      rfl

end Table

/-! ### Statements -/

theorem Table.optional_schema_of_ofBound {bound : Bound} {table : Table}
    (h : Table.ofBound bound = .ok table) :
    ∃ schema, bound.optional Expr.toText "schema" = .ok schema := by
  obtain ⟨_, _, h⟩ := except_bind_eq_ok.mp h
  obtain ⟨schema, hschema, _⟩ := except_bind_eq_ok.mp h
  exact ⟨schema, hschema⟩

/-- A statement that declares a table means what its arguments mean. -/
theorem Call.operation_eq_ok_iff_ofBound {builder : String} {statement : Call}
    {operation : Operation} (hmethod : statement.method = "CreateTable") :
    statement.operation builder = .ok operation ↔ statement.target = builder ∧
      ∃ bound table, Bound.ofCall statement Parameter.table = .ok bound ∧
        Table.ofBound bound = .ok table ∧ operation = .createTable table := by
  have hkind : Kind.ofMethod? statement.method = some .createTable :=
    Kind.ofMethod?_eq_some_iff.mpr hmethod.symm
  simp only [Call.operation, hkind, except_bind_eq_ok, addresses_eq_ok_iff, Bound.toOperation]
  constructor
  · rintro ⟨-, htarget, bound, hbound, -, -, table, htable, ⟨⟩⟩
    exact ⟨htarget, bound, table, hbound, htable, rfl⟩
  · rintro ⟨htarget, bound, table, hbound, htable, rfl⟩
    obtain ⟨schema, hschema⟩ := Table.optional_schema_of_ofBound htable
    exact ⟨(), htarget, bound, hbound, schema, hschema, table, htable, rfl⟩

/-- A statement whose arguments can be read records the table that its functions declare, and fails
if they declare none. -/
theorem records_table_declared {builder : String} {statement : Call} {bound : Bound} {name : String}
    {schema : Option String} {columns : Expr} {block : Option Expr}
    (htarget : statement.target = builder) (hmethod : statement.method = "CreateTable")
    (hbound : Bound.ofCall statement Parameter.table = .ok bound)
    (hname : bound.required Expr.toText "name" = .ok name)
    (hschema : bound.optional Expr.toText "schema" = .ok schema)
    (hcolumns : bound.required Expr.toFunction "columns" = .ok columns)
    (hblock : bound.optional Expr.toFunction "constraints" = .ok block) :
    (∀ table, Table.ofBound bound = .ok table ↔ DeclareTable (name, schema) columns block table) ∧
      (∀ operation, statement.Appends builder operation ↔
        ∃ table, DeclareTable (name, schema) columns block table ∧
          operation = .createTable table) ∧
      ((∃ error, statement.FailsWith builder error) ↔
        ∀ table, ¬DeclareTable (name, schema) columns block table) := by
  have hread (table : Table) :
      Table.ofBound bound = .ok table ↔ DeclareTable (name, schema) columns block table :=
    Table.ofBound_eq_ok_iff hname hschema hcolumns hblock
  have hmeaning (operation : Operation) : statement.operation builder = .ok operation ↔
      ∃ table, DeclareTable (name, schema) columns block table ∧
        operation = .createTable table := by
    simp only [Call.operation_eq_ok_iff_ofBound hmethod, hbound, Except.ok.injEq,
      exists_and_left, exists_eq_left', htarget, true_and, hread]
  refine ⟨hread, fun operation => Call.appends_iff_operation.trans (hmeaning operation), ?_⟩
  simp only [Call.failsWith_iff_operation]
  cases hoperation : statement.operation builder with
  | ok operation =>
    obtain ⟨table, hdeclares, -⟩ := (hmeaning operation).mp hoperation
    exact iff_of_false (by rintro ⟨_, ⟨⟩⟩) fun hnone => hnone table hdeclares
  | error error =>
    refine iff_of_true ⟨error, rfl⟩ fun table hdeclares => ?_
    cases hoperation.symm.trans ((hmeaning _).mpr ⟨table, hdeclares, rfl⟩)

/-! An example: a column under an identifier that is not its name, and a key that selects it. -/

def codeColumn : Call :=
  ⟨"t", "Column", [⟨none, .constant (.string "code") default, default⟩,
    ⟨none, .constant (.string "int") default, default⟩], default⟩

def codeKey : Call :=
  ⟨"table", "PrimaryKey", [⟨none, .constant (.string "key") default, default⟩,
    ⟨none, .function "x" (.path ["x", "Id"] default) default, default⟩], default⟩

def codeColumns : Expr :=
  .function "t" (.object [.named "Id" (.call codeColumn) default] default) default

def codeConstraints : Expr :=
  .block "table" [codeKey] default

def codeTable : Call :=
  ⟨"mb", "CreateTable", [⟨none, .constant (.string "T") default, default⟩,
    ⟨some "columns", codeColumns, default⟩, ⟨some "constraints", codeConstraints, default⟩],
    default⟩

def codeOperation : Operation :=
  .createTable
    { name := "T"
      columns := [{ name := "code", table := "T", type := "int" }]
      primaryKey := some { name := "key", table := "T", columns := ["code"] } }

theorem records_codeTable_declared : codeTable.Appends "mb" codeOperation := by
  have h := @records_table_declared "mb" codeTable _ _ _ _ _ rfl rfl rfl rfl rfl rfl rfl
  exact (h.2.1 _).mpr ⟨_, (h.1 _).mp rfl, rfl⟩

end MigrationScript
