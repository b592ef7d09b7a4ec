import MigrationScript.Proofs.Meaning.Binding
import MigrationScript.Proofs.RoundTrip

namespace MigrationScript

open MigrationScript.Bound WrittenArgument

/-! ### Which parameters are given -/

/-- Whether a parameter that may be left out has another value than it would then have. Whether a
column may be null is always told. -/
def Column.isGiven (column : Column) : String → Bool
  | "schema" => column.schema.isSome
  | "nullable" => true
  | "defaultValue" => column.defaultValue.isSome
  | "defaultExpression" => column.defaultExpression.isSome
  | _ => false

/-- In a table a column has a name if its identifier is another. -/
def Column.isDeclaredWith (column : Column) : String → Bool
  | "name" => Identifier.derive column.name ≠ column.name
  | "schema" => false
  | parameter => column.isGiven parameter

def Key.isGiven (key : Key) : String → Bool
  | "schema" => key.schema.isSome
  | "column" => key.columns.length = 1
  | "columns" => 2 ≤ key.columns.length
  | _ => false

def ForeignKey.isGiven (key : ForeignKey) : String → Bool
  | "schema" => key.schema.isSome
  | "column" => key.columns.length = 1
  | "columns" => 2 ≤ key.columns.length
  | "referencedSchema" => key.referencedSchema.isSome
  | "referencedColumn" => key.referencedColumns.length = 1
  | "referencedColumns" => 2 ≤ key.referencedColumns.length
  | "onUpdate" => key.onUpdate ≠ .noAction
  | "onDelete" => key.onDelete ≠ .noAction
  | _ => false

def Index.isGiven (index : Index) : String → Bool
  | "schema" => index.schema.isSome
  | "column" => index.columns.length = 1
  | "columns" => 2 ≤ index.columns.length
  | "unique" => index.isUnique
  | _ => false

def SequenceChange.isGiven (change : SequenceChange) : String → Bool
  | "schema" => change.schema.isSome
  | "incrementBy" => change.incrementBy.isSome
  | "minValue" => change.minValue.isSome
  | "maxValue" => change.maxValue.isSome
  | "cycle" => change.cycle
  | _ => false

def Sequence.isGiven (sequence : Sequence) : String → Bool
  | "schema" => sequence.schema.isSome
  | "type" => sequence.type.isSome
  | "startWith" => sequence.startWith.isSome
  | "incrementBy" => sequence.incrementBy.isSome
  | "minValue" => sequence.minValue.isSome
  | "maxValue" => sequence.maxValue.isSome
  | "cycle" => sequence.cycle
  | _ => false

/-- The constraints of a table are always given, as an empty block where there are none. -/
def Table.isGiven (table : Table) : String → Bool
  | "schema" => table.schema.isSome
  | "constraints" => true
  | _ => false

/-- Whether a parameter that may be left out is one for the schema, and there is one. -/
def schemaIsGiven (schema : Option String) : String → Bool
  | "schema" => schema.isSome
  | _ => false

def ObjectRename.isGiven (rename : ObjectRename) : String → Bool
  | "schema" => rename.schema.isSome
  | "newName" => rename.newName.isSome
  | "newSchema" => rename.newSchema.isSome
  | _ => false

def SqlText.isGiven (statement : SqlText) : String → Bool
  | "suppressTransaction" => statement.suppressTransaction
  | _ => false

def Operation.isGiven : Operation → String → Bool
  | .addColumn column | .alterColumn column => column.isGiven
  | .addForeignKey key => key.isGiven
  | .addPrimaryKey key | .addUniqueConstraint key => key.isGiven
  | .alterSequence change => change.isGiven
  | .createIndex index => index.isGiven
  | .createSequence sequence => sequence.isGiven
  | .createTable table => table.isGiven
  | .createSchema _ | .dropSchema _ => fun _ => false
  | .dropColumn member | .dropForeignKey member | .dropIndex member | .dropPrimaryKey member
  | .dropUniqueConstraint member => schemaIsGiven member.schema
  | .dropSequence object | .dropTable object => schemaIsGiven object.schema
  | .renameColumn rename | .renameIndex rename => schemaIsGiven rename.schema
  | .renameSequence rename | .renameTable rename => rename.isGiven
  | .restartSequence restart => schemaIsGiven restart.schema
  | .sql statement => statement.isGiven

/-- The arguments give each required parameter and the optional ones that have to be given, in the
order of the parameters. All have names, but for one that is alone where that is usual. -/
structure Minimal (parameters : List Parameter) (naming : Naming) (isGiven : String → Bool)
    (arguments : List Argument) : Prop where
  known : ∀ name ∈ givenNames parameters arguments, name ∈ parameters.map (·.name)
  ordered : (givenNames parameters arguments).Pairwise fun first second =>
    (parameters.map (·.name)).idxOf first < (parameters.map (·.name)).idxOf second
  given : ∀ parameter ∈ parameters, parameter.name ∈ givenNames parameters arguments ↔
    parameter.isRequired = true ∨ isGiven parameter.name = true
  unnamed : ∀ argument ∈ arguments, argument.name = none ↔
    naming = .positionalWhenAlone ∧ arguments.length = 1

section Names

variable {arguments : List WrittenArgument} {parameters : List Parameter} {naming : Naming}
  {isGiven : String → Bool} {name : String}

theorem mem_names_iff :
    name ∈ arguments.map (·.name) ↔ (valueOf arguments name).isSome = true := by
  rw [valueOf, Option.isSome_map, List.find?_isSome, List.mem_map]
  simp only [beq_iff_eq]

theorem givenNames_map_tree :
    givenNames parameters (arguments.map (·.tree)) = arguments.map (·.name) := by
  cases arguments with
  | nil =>
    rw [givenNames, List.map_nil, entries_nil]
    rfl
  | cons argument rest =>
    have hnamed (arguments : List WrittenArgument) :
        (namedEntries (arguments.map (·.tree))).map (·.1) = arguments.map (·.name) := by
      induction arguments with
      | nil => rfl
      | cons argument rest ih => exact congrArg (List.cons argument.name) ih
    rw [givenNames, List.map_cons, WrittenArgument.tree, entries_named, List.map_cons, hnamed,
      List.map_cons]

/-- Of distinct names those that are kept stand at increasing places. -/
theorem pairwise_idxOf {names kept : List String} (hnodup : names.Nodup) (h : kept.Sublist names) :
    kept.Pairwise fun first second => names.idxOf first < names.idxOf second := by
  refine List.Pairwise.sublist h (List.pairwise_iff_getElem.mpr fun i j hi hj hlt => ?_)
  rw [hnodup.idxOf_getElem i hi, hnodup.idxOf_getElem j hj]
  exact hlt

theorem minimal_of_names {arguments : List Argument} {names : List String}
    (hnames : givenNames parameters arguments = names)
    (hsublist : names.Sublist (parameters.map (·.name)))
    (hnodup : (parameters.map (·.name)).Nodup)
    (hgiven : ∀ parameter ∈ parameters, parameter.name ∈ names ↔
      parameter.isRequired = true ∨ isGiven parameter.name = true)
    (hunnamed : ∀ argument ∈ arguments, argument.name = none ↔
      naming = .positionalWhenAlone ∧ arguments.length = 1) :
    Minimal parameters naming isGiven arguments where
  known _ hname := hsublist.subset (hnames ▸ hname)
  ordered := hnames ▸ pairwise_idxOf hnodup hsublist
  given := hnames ▸ hgiven
  unnamed := hunnamed

variable (hfits : Fits arguments parameters) (hnodup : (parameters.map (·.name)).Nodup)
  (hgiven : ∀ parameter ∈ parameters, (valueOf arguments parameter.name).isSome = true ↔
    parameter.isRequired = true ∨ isGiven parameter.name = true)

include hfits hnodup hgiven

theorem minimal_named (hlabel : ¬(naming = .positionalWhenAlone ∧ arguments.length = 1)) :
    Minimal parameters naming isGiven (arguments.map (·.tree)) := by
  refine minimal_of_names givenNames_map_tree hfits.sublist hnodup
    (fun parameter hmem => mem_names_iff.trans (hgiven parameter hmem)) fun argument hmem => ?_
  obtain ⟨written, -, rfl⟩ := List.mem_map.mp hmem
  rw [List.length_map]
  exact iff_of_false (fun h => nomatch h) hlabel

/-- Arguments that fit the parameters are minimal if those that are left out may be. -/
theorem minimal_trees (hfirst : naming = .named ∨
      (arguments.map (·.name)).head? = (parameters.map (·.name)).head?) :
    Minimal parameters naming isGiven (trees naming arguments) := by
  cases naming with
  | named => exact minimal_named hfits hnodup hgiven (by rintro ⟨⟨⟩, -⟩)
  | positionalWhenAlone =>
    obtain _ | ⟨argument, _ | ⟨second, rest⟩⟩ := arguments
    · exact minimal_named hfits hnodup hgiven (by rintro ⟨-, ⟨⟩⟩)
    · obtain hnaming | hhead := hfirst
      · cases hnaming
      have hnames : givenNames parameters (trees .positionalWhenAlone [argument]) =
          [argument].map (·.name) := by
        cases parameters with
        | nil => cases hhead
        | cons parameter parameters =>
          have hname : argument.name = parameter.name := Option.some.inj hhead
          rw [givenNames, trees, entries_positional, entries_nil]
          exact congrArg ([·]) hname.symm
      refine minimal_of_names hnames hfits.sublist hnodup
        (fun parameter hmem => mem_names_iff.trans (hgiven parameter hmem)) fun written hmem => ?_
      rw [List.mem_singleton.mp hmem]
      exact iff_of_true rfl ⟨rfl, rfl⟩
    · exact minimal_named hfits hnodup hgiven (by rintro ⟨-, ⟨⟩⟩)

end Names

/-! ### Operations -/

namespace Operation

theorem isSome_single? (columns : List String) :
    (single? columns).isSome = decide (columns.length = 1) := by
  obtain _ | ⟨first, _ | ⟨second, rest⟩⟩ := columns
  · rfl
  · rfl
  · exact (decide_eq_false (by simp)).symm

theorem isSome_several? (columns : List String) :
    (several? columns).isSome = decide (2 ≤ columns.length) := by
  obtain _ | ⟨first, _ | ⟨second, rest⟩⟩ := columns
  · rfl
  · rfl
  · exact (decide_eq_true (by simp)).symm

theorem isSome_valueOf_iff (operation : Operation) (htable : operation.kind ≠ .createTable) :
    ∀ parameter ∈ operation.kind.parameters,
      (valueOf operation.writtenArguments parameter.name).isSome = true ↔
        parameter.isRequired = true ∨ operation.isGiven parameter.name = true := by
  cases operation with
  | createTable table => exact absurd rfl htable
  | addColumn column | alterColumn column =>
    simp [kind, Kind.parameters, Parameter.column, Parameter.required, Parameter.optional,
      Column.options, isGiven, Column.isGiven]
  | addForeignKey key =>
    simp [kind, Kind.parameters, Parameter.foreignKey, Parameter.required, Parameter.optional,
      ForeignKey.reference, isGiven, ForeignKey.isGiven, isSome_single?, isSome_several?]
  | addPrimaryKey key | addUniqueConstraint key =>
    simp [kind, Kind.parameters, Parameter.key, Parameter.required, Parameter.optional, isGiven,
      Key.isGiven, isSome_single?, isSome_several?]
  | createIndex index =>
    simp [kind, Kind.parameters, Parameter.index, Parameter.key, Parameter.required,
      Parameter.optional, isGiven, Index.isGiven, isSome_single?, isSome_several?]
  | alterSequence change =>
    simp [kind, Kind.parameters, Parameter.sequenceChange, Parameter.required, Parameter.optional,
      isGiven, SequenceChange.isGiven]
  | createSequence sequence =>
    simp [kind, Kind.parameters, Parameter.sequence, Parameter.required, Parameter.optional,
      isGiven, Sequence.isGiven]
  | createSchema schema | dropSchema schema =>
    simp [kind, Kind.parameters, Parameter.required, isGiven]
  | dropColumn member | dropForeignKey member | dropIndex member | dropPrimaryKey member
  | dropUniqueConstraint member =>
    simp [kind, Kind.parameters, Parameter.tableMember, Parameter.required, Parameter.optional,
      isGiven, schemaIsGiven]
  | dropSequence object | dropTable object =>
    simp [kind, Kind.parameters, Parameter.schemaObject, Parameter.required, Parameter.optional,
      isGiven, schemaIsGiven]
  | renameColumn rename | renameIndex rename =>
    simp [kind, Kind.parameters, Parameter.memberRename, Parameter.required, Parameter.optional,
      isGiven, schemaIsGiven]
  | renameSequence rename | renameTable rename =>
    simp [kind, Kind.parameters, Parameter.objectRename, Parameter.required, Parameter.optional,
      isGiven, ObjectRename.isGiven]
  | restartSequence restart =>
    simp [kind, Kind.parameters, Parameter.sequenceRestart, Parameter.required, Parameter.optional,
      isGiven, schemaIsGiven]
  | sql statement =>
    simp [kind, Kind.parameters, Parameter.required, Parameter.optional, isGiven, SqlText.isGiven]

theorem minimal_tree {builder : String} {operation : Operation}
    (htable : operation.kind ≠ .createTable) :
    Minimal operation.kind.parameters operation.kind.shape.naming operation.isGiven
      (operation.tree builder).arguments := by
  obtain ⟨parameter, parameters, value, rest, hparameters, hwritten⟩ :=
    exists_writtenArguments htable
  rw [tree_eq_trees htable]
  refine minimal_trees (fits_parameters htable) operation.kind.nodup_parameters
    (operation.isSome_valueOf_iff htable) (.inr ?_)
  rw [hparameters, hwritten]
  rfl

end Operation

/-! ### Tables -/

/-- The member gives the column its identifier, and its name only if that is another. -/
def Column.IsDeclaredBy (column : Column) : Member → Prop
  | .named identifier (.call call) _ =>
    identifier = Identifier.derive column.name ∧ call.target = "table" ∧ call.method = "Column" ∧
      Minimal Parameter.declaredColumn .named column.isDeclaredWith call.arguments
  | _ => False

/-- The call declares a key with its name in front of its columns. -/
structure Key.IsDeclaredBy (method : String) (key : Key) (call : Call) : Prop where
  target_eq : call.target = "table"
  method_eq : call.method = method
  names_eq : call.arguments.map (·.name) = [none, none]
  name_eq : call.arguments.head?.map (·.value) = some (.constant (.string key.name) default)

structure ForeignKey.IsDeclaredBy (key : ForeignKey) (call : Call) : Prop where
  target_eq : call.target = "table"
  method_eq : call.method = "ForeignKey"
  minimal : Minimal Parameter.declaredForeignKey .named key.isGiven call.arguments
  name_eq : call.arguments.head?.map (·.value) = some (.constant (.string key.name) default)

namespace Table

/-- One function declares the columns in their order. The other declares the constraints: the
primary key, then the foreign keys, then the unique constraints. -/
structure IsDeclaredBy (table : Table) (columns constraints : Expr) : Prop where
  columns : ∃ members, columns = .function "table" (.object members default) default ∧
    List.Forall₂ Column.IsDeclaredBy table.columns members
  constraints : ∃ primaryKey foreignKeys uniqueConstraints,
    constraints =
      .block "table" (primaryKey ++ foreignKeys ++ uniqueConstraints) default ∧
    List.Forall₂ (Key.IsDeclaredBy "PrimaryKey") table.primaryKey.toList primaryKey ∧
    List.Forall₂ ForeignKey.IsDeclaredBy table.foreignKeys foreignKeys ∧
    List.Forall₂ (Key.IsDeclaredBy "Unique") table.uniqueConstraints uniqueConstraints

theorem forall₂_map {α β : Type} {related : α → β → Prop} {items : List α} {tree : α → β}
    (h : ∀ item, related item (tree item)) : List.Forall₂ related items (items.map tree) :=
  List.forall₂_map_right_iff.mpr (List.forall₂_same.mpr fun item _ => h item)

theorem isDeclaredBy_tree (column : Column) : column.IsDeclaredBy column.tree := by
  have hgiven : ∀ parameter ∈ Parameter.declaredColumn,
      (valueOf column.declarationArguments parameter.name).isSome = true ↔
        parameter.isRequired = true ∨ column.isDeclaredWith parameter.name = true := by
    by_cases hname : Identifier.derive column.name = column.name
    · simp [Parameter.declaredColumn, Parameter.required, Parameter.optional,
        Column.declarationArguments, Column.options, Column.isDeclaredWith, Column.isGiven, hname]
    · simp [Parameter.declaredColumn, Parameter.required, Parameter.optional,
        Column.declarationArguments, Column.options, Column.isDeclaredWith, Column.isGiven, hname]
  have hminimal := minimal_trees column.fits_declaration (by decide) hgiven (.inl rfl)
  rw [← column.arguments_declarationCall] at hminimal
  exact ⟨rfl, rfl, rfl, hminimal⟩

theorem isDeclaredBy_foreignKeyTree (key : ForeignKey) : key.IsDeclaredBy key.tree := by
  refine ⟨rfl, rfl, minimal_trees key.fits_declaration (by decide) ?_ (.inl rfl), rfl⟩
  simp [Parameter.declaredForeignKey, Parameter.required, Parameter.optional,
    ForeignKey.declarationArguments, ForeignKey.reference, ForeignKey.isGiven,
    Operation.isSome_single?, Operation.isSome_several?]

theorem isDeclaredBy_keyTree (method : String) (key : Key) :
    Key.IsDeclaredBy method key (key.tree method) :=
  ⟨rfl, rfl, rfl, rfl⟩

theorem isDeclaredBy_trees (table : Table) :
    table.IsDeclaredBy table.columnsTree table.constraintsTree where
  columns := ⟨_, rfl, forall₂_map isDeclaredBy_tree⟩
  constraints := ⟨_, _, _, rfl, forall₂_map (isDeclaredBy_keyTree "PrimaryKey"),
    forall₂_map isDeclaredBy_foreignKeyTree, forall₂_map (isDeclaredBy_keyTree "Unique")⟩

theorem isSome_name_trees (table : Table) :
    ∀ argument ∈ table.trees, argument.name.isSome = true := by
  intro argument hmem
  obtain hmem | hmem := List.mem_append.mp hmem
  · obtain ⟨written, -, rfl⟩ := List.mem_map.mp hmem
    rfl
  · obtain rfl | hmem := List.mem_cons.mp hmem
    · rfl
    · rw [List.mem_singleton.mp hmem]
      rfl

theorem minimal_table (table : Table) :
    Minimal Parameter.table .named table.isGiven table.trees := by
  have hunnamed : ∀ argument ∈ table.trees, argument.name = none ↔
      Naming.named = .positionalWhenAlone ∧ table.trees.length = 1 := by
    intro argument hmem
    have hsome := table.isSome_name_trees argument hmem
    exact iff_of_false (fun hnone => by rw [hnone] at hsome; cases hsome) fun h => nomatch h.1
  cases hschema : table.schema with
  | none =>
    have hnames : givenNames Parameter.table table.trees = ["name", "columns", "constraints"] := by
      unfold trees headArguments
      rw [hschema]
      rfl
    refine minimal_of_names hnames (by decide) (by decide) ?_ hunnamed
    simp [Parameter.table, Parameter.required, Parameter.optional, isGiven, hschema]
  | some schema =>
    have hnames : givenNames Parameter.table table.trees =
        ["name", "schema", "columns", "constraints"] := by
      unfold trees headArguments
      rw [hschema]
      rfl
    refine minimal_of_names hnames (by decide) (by decide) ?_ hunnamed
    simp [Parameter.table, Parameter.required, Parameter.optional, isGiven, hschema]

end Table

/-! ### Written scripts -/

/-- The statement gives what the operation needs; that of a table declares its columns and its
constraints. -/
structure Operation.IsWrittenAs (builder : String) (operation : Operation) (statement : Call) :
    Prop where
  target_eq : statement.target = builder
  method_eq : statement.method = operation.kind.method
  minimal : Minimal operation.kind.parameters operation.kind.shape.naming operation.isGiven
    statement.arguments
  declares : ∀ table, operation = .createTable table → ∃ columns constraints,
    ⟨some "columns", columns, default⟩ ∈ statement.arguments ∧
      ⟨some "constraints", constraints, default⟩ ∈ statement.arguments ∧
      table.IsDeclaredBy columns constraints

theorem Operation.isWrittenAs_tree (builder : String) (operation : Operation) :
    operation.IsWrittenAs builder (operation.tree builder) := by
  by_cases htable : operation.kind = .createTable
  · cases operation <;> cases htable
    rename_i table
    refine ⟨rfl, rfl, table.minimal_table, ?_⟩
    rintro _ ⟨⟩
    refine ⟨table.columnsTree, table.constraintsTree, ?_, ?_, table.isDeclaredBy_trees⟩
    · exact List.mem_append_right _ List.mem_cons_self
    · exact List.mem_append_right _ (List.mem_cons_of_mem _ List.mem_cons_self)
  · have htree : operation.tree builder = ⟨builder, operation.kind.method,
        trees operation.kind.shape.naming operation.writtenArguments, default⟩ :=
      tree_eq_trees htable
    refine ⟨?_, ?_, minimal_tree htable, ?_⟩
    · rw [htree]
    · rw [htree]
    · rintro table rfl
      exact absurd rfl htable

/-- The script of an operation is one call on the builder. It gives the parameters that are required
and those whose values are not the usual ones, each once, in the order of the parameters and with
their names, unless the only one may go without. A table declares its columns in their order and its
constraints from the primary key on. -/
theorem parse_generate_minimal {builder : String} {operation : Operation}
    (hbuilder : Identifier.isValid builder = true) (hfault : operation.fault? = none)
    (layout : Layout) :
    ∃ script statement, generate layout builder [operation] = .ok script ∧
      parse script = .ok [statement] ∧ operation.IsWrittenAs builder statement.eraseSpans := by
  have hfaults : fault? [operation] = none := by
    rw [fault?_eq_none_iff]
    intro other hmem
    rw [List.mem_singleton.mp hmem]
    exact hfault
  obtain ⟨statements, hparse, htrees⟩ := parse_render hbuilder layout [operation]
  obtain ⟨statement, rfl, htree⟩ := List.map_eq_singleton_iff.mp htrees
  refine ⟨_, statement, generate_eq_ok hbuilder hfaults layout, hparse, ?_⟩
  rw [htree]
  exact operation.isWrittenAs_tree builder

/-- A table of two columns, one of which is its primary key. -/
def keyedTable : Table :=
  { name := "T"
    columns := [{ name := "Id", table := "T", type := "int" },
      { name := "first name", table := "T", type := "text", defaultExpression := some "''" }]
    primaryKey := some { name := "PK", table := "T", columns := ["Id"] } }

theorem parse_generate_keyedTable :
    Identifier.isValid "migration" = true ∧ (Operation.createTable keyedTable).fault? = none ∧
      ∃ script statement,
        generate { ending := .crlf } "migration" [.createTable keyedTable] = .ok script ∧
          parse script = .ok [statement] ∧
          (Operation.createTable keyedTable).IsWrittenAs "migration" statement.eraseSpans := by
  have hbuilder : Identifier.isValid "migration" = true := by decide
  have hfault : (Operation.createTable keyedTable).fault? = none := by decide
  exact ⟨hbuilder, hfault, parse_generate_minimal hbuilder hfault { ending := .crlf }⟩

end MigrationScript
