import MigrationScript.Proofs.Meaning.Written

namespace MigrationScript

open WrittenArgument

/-! ### Columns and foreign keys -/

namespace Column

variable (column : Column)

theorem arguments_declarationCall :
    column.declarationCall.arguments = trees .named column.declarationArguments := by
  rw [declarationCall]

theorem ofCall_declarationCall :
    Bound.ofCall column.declarationCall Parameter.declaredColumn =
      .ok (.written column.declarationCall column.declarationArguments) := by
  have hnodup : (Parameter.declaredColumn.map (·.name)).Nodup := by decide
  exact Bound.ofCall_written column.arguments_declarationCall column.fits_declaration hnodup
    (.inl rfl)

/-- The name of a column is given where its identifier is another text. -/
theorem optional_name :
    (Bound.written column.declarationCall column.declarationArguments).optional Expr.toText
      "name" =
      .ok (if Identifier.derive column.name = column.name then none else some column.name) := by
  rw [Bound.optional_written]
  unfold declarationArguments
  split
  · simp [options, readOptional]
  · simp [options]
    rfl

theorem valueOf_declarationArguments {name : String} (hname : "name" ≠ name) :
    valueOf column.declarationArguments name =
      valueOf (string "type" column.type ++ column.options) name := by
  unfold declarationArguments
  split
  · rfl
  · simp [hname]

end Column

theorem ForeignKey.ofCall_tree (key : ForeignKey) :
    Bound.ofCall key.tree Parameter.declaredForeignKey =
      .ok (.written key.tree key.declarationArguments) := by
  have harguments : key.tree.arguments = trees .named key.declarationArguments := by
    rw [tree]
  have hnodup : (Parameter.declaredForeignKey.map (·.name)).Nodup := by decide
  exact Bound.ofCall_written harguments key.fits_declaration hnodup (.inl rfl)

namespace Table

variable {base : Table}

theorem column_tree {column : Column}
    (hbelongs : column.table = base.name ∧ column.schema = base.schema)
    (hdefaults : column.OneDefault) :
    base.column "table" (Identifier.derive column.name) column.declarationCall =
      .ok column.canonical := by
  have htype : valueOf column.declarationArguments "type" =
      some (.constant (.string column.type)) := by
    rw [column.valueOf_declarationArguments (by decide)]
    simp
  have hvalues : ∀ name ∈ ["nullable", "defaultValue", "defaultExpression"],
      valueOf column.declarationArguments name = valueOf column.options name := by
    simp [column.valueOf_declarationArguments]
  have hname : (if Identifier.derive column.name = column.name then none
      else some column.name).getD (Identifier.derive column.name) = column.name := by
    split
    · assumption
    · rfl
  have hoptions (base : Column) :=
    Bound.columnOptions_written column.declarationCall base hvalues hdefaults
  have haddresses : column.declarationCall.addresses "table" = .ok () := rfl
  have hmethod : column.declarationCall.method = "Column" := rfl
  rw [Table.column, haddresses, hmethod, column.ofCall_declarationCall]
  simp only [ne_eq, not_true_eq_false, if_false, bind, Except.bind, column.optional_name, hname,
    hoptions, Bound.required_written htype, Expr.toText_tree]
  rw [← hbelongs.1, ← hbelongs.2]
  rfl

/-- The column under its identifier. -/
def declare (column : Column) : String × Column :=
  (Identifier.derive column.name, column.canonical)

variable {table : Table}

theorem declaredColumns_tree (h : table.Writable)
    (hbase : base.name = table.name ∧ base.schema = table.schema) :
    base.declaredColumns table.columnsTree = .ok (table.columns.map declare) := by
  change (table.columns.map (·.tree)).foldlM (base.addColumn "table") [] = _
  refine foldlM_eq_ok (List.map declare) ?_
  intro before column after hcolumns hmem
  have hbelongs : column.table = base.name ∧ column.schema = base.schema := by
    rw [hbase.1, hbase.2]
    exact h.owns.columns column hmem
  have hfresh : (before.map declare).any (·.1 == Identifier.derive column.name) = false := by
    apply List.any_eq_false.mpr
    intro entry hentry heq
    have hidentifiers := h.identifiers
    rw [hcolumns, List.map_append, List.map_cons] at hidentifiers
    obtain ⟨first, hfirst, rfl⟩ := List.mem_map.mp hentry
    exact (List.nodup_append.mp hidentifiers).2.2 _ (List.mem_map_of_mem hfirst) _
      List.mem_cons_self (beq_iff_eq.mp heq)
  have hcolumn := column_tree hbelongs (h.oneDefault column hmem)
  unfold Column.tree addColumn
  dsimp only
  rw [hcolumn]
  simp only [bind, Except.bind, hfresh, Bool.false_eq_true, if_false, List.map_append]
  rfl

/-! ### Constraints -/

theorem selected_columnPath (h : table.Writable) {name : String}
    (hname : ∃ column ∈ table.columns, column.name = name) :
    selected (table.columns.map declare) "x" (columnPath name) default = .ok name := by
  obtain ⟨column, hcolumn, rfl⟩ := hname
  have hnodup : ((table.columns.map declare).map (·.1)).Nodup := by
    rw [List.map_map]
    exact h.identifiers
  have hlookup : (table.columns.map declare).lookup (Identifier.derive column.name) =
      some column.canonical :=
        (lookup_eq_some_iff_mem hnodup).mpr (List.mem_map_of_mem hcolumn)
  unfold columnPath selected
  dsimp only
  rw [if_pos rfl, hlookup]
  rfl

theorem selection_tree (h : table.Writable) {selected : List String}
    (hselected : table.Declares selected) :
    selection (table.columns.map declare) (WrittenValue.selector selected).tree =
      .ok selected := by
  have hobject : (selected.map fun column => Member.path (columnPath column) default).mapM
      (selectedMember (table.columns.map declare) "x") = .ok selected :=
    mapM_eq_ok fun name hname => selected_columnPath h (hselected name hname)
  match selected with
  | [] => exact hobject
  | [name] =>
    have hpath := selected_columnPath h (hselected name List.mem_cons_self)
    change (Table.selected (table.columns.map declare) "x" (columnPath name) default >>=
      fun name => pure [name]) = _
    rw [hpath]
    rfl
  | first :: second :: rest => exact hobject

/-- The arguments of the declaration of a key; neither has a name. -/
def keyArguments (key : Key) : List WrittenArgument :=
  [⟨"name", .constant (.string key.name)⟩, ⟨"columns", .selector key.columns⟩]

theorem key_tree (h : table.Writable) {key : Key} {method : String}
    (hselected : table.Declares key.columns)
    (hbelongs : key.table = base.name ∧ key.schema = base.schema) :
    base.key (table.columns.map declare) (key.tree method) = .ok key := by
  have hbound : Bound.ofCall (key.tree method) Parameter.declaredKey =
      .ok (.written (key.tree method) (keyArguments key)) := by
    refine Bound.ofCall_eq_ok rfl ?_
    intro parameter hparameter _
    simp only [Parameter.declaredKey, List.mem_cons, List.not_mem_nil, or_false] at hparameter
    obtain rfl | rfl := hparameter <;> rfl
  have hname : valueOf (keyArguments key) "name" = some (.constant (.string key.name)) := by
    simp [keyArguments]
  have hcolumns : valueOf (keyArguments key) "columns" = some (.selector key.columns) := by
    simp [keyArguments]
  rw [Table.key, hbound]
  simp only [bind, Except.bind, Bound.required_written hname, Bound.required_written hcolumns,
    Expr.toText_tree, Expr.toFunction_tree, selection_tree h hselected]
  rw [← hbelongs.1, ← hbelongs.2]
  rfl

theorem foreignKey_tree (h : table.Writable) {key : ForeignKey}
    (hselected : table.Declares key.columns)
    (hbelongs : key.table = base.name ∧ key.schema = base.schema) :
    base.foreignKey (table.columns.map declare) key.tree = .ok key := by
  have hname : valueOf key.declarationArguments "name" = some (.constant (.string key.name)) := by
    simp [ForeignKey.declarationArguments]
  have hcolumns : valueOf key.declarationArguments "columns" = some (.selector key.columns) := by
    simp [ForeignKey.declarationArguments]
  have hvalues : ∀ name ∈ ["referencedSchema", "referencedTable", "referencedColumn",
      "referencedColumns", "onUpdate", "onDelete"],
      valueOf key.declarationArguments name = valueOf key.reference name := by
    simp [ForeignKey.declarationArguments]
  have hreference (base : ForeignKey) := Bound.reference_written key.tree base hvalues
  rw [Table.foreignKey, key.ofCall_tree]
  simp only [bind, Except.bind, Bound.required_written hname, Bound.required_written hcolumns,
    Expr.toText_tree, Expr.toFunction_tree, selection_tree h hselected, hreference]
  rw [← hbelongs.1, ← hbelongs.2]

section Constraints

variable {declared : DeclaredColumns}

theorem addConstraint_primaryKey {key : Key} (hnone : base.primaryKey = none)
    (hkey : base.key declared (key.tree "PrimaryKey") = .ok key) :
    addConstraint "table" declared base (key.tree "PrimaryKey") =
      .ok { base with primaryKey := some key } := by
  have hadd : addConstraint "table" declared base (key.tree "PrimaryKey") =
      (base.key declared (key.tree "PrimaryKey")).map fun key =>
        { base with primaryKey := some key } := by
    unfold addConstraint
    rw [hnone]
    rfl
  rw [hadd, hkey]
  rfl

theorem addConstraint_foreignKey {key : ForeignKey}
    (hkey : base.foreignKey declared key.tree = .ok key) :
    addConstraint "table" declared base key.tree =
      .ok { base with foreignKeys := base.foreignKeys ++ [key] } := by
  have hadd : addConstraint "table" declared base key.tree =
      (base.foreignKey declared key.tree).map fun key =>
        { base with foreignKeys := base.foreignKeys ++ [key] } := rfl
  rw [hadd, hkey]
  rfl

theorem addConstraint_unique {key : Key} (hkey : base.key declared (key.tree "Unique") = .ok key) :
    addConstraint "table" declared base (key.tree "Unique") =
      .ok { base with uniqueConstraints := base.uniqueConstraints ++ [key] } := by
  have hadd : addConstraint "table" declared base (key.tree "Unique") =
      (base.key declared (key.tree "Unique")).map fun key =>
        { base with uniqueConstraints := base.uniqueConstraints ++ [key] } := rfl
  rw [hadd, hkey]
  rfl

end Constraints

/-- The constraints are declared one behind the other: the primary key, then the foreign keys, then
the unique constraints. -/
theorem addConstraints_tree (h : table.Writable) (columns : List Column) :
    addConstraints { name := table.name, schema := table.schema, columns }
        (table.columns.map declare) table.constraintsTree = .ok { table with columns } := by
  let base : Table := { name := table.name, schema := table.schema, columns }
  let keyed : Table := { base with primaryKey := table.primaryKey }
  let linked : Table := { keyed with foreignKeys := table.foreignKeys }
  have hprimaryKey : (table.primaryKey.toList.map (·.tree "PrimaryKey")).foldlM
      (addConstraint "table" (table.columns.map declare)) base = .ok keyed := by
    cases hkey : table.primaryKey with
    | none =>
      simp only [keyed, hkey]
      rfl
    | some key =>
      have hread : base.key (table.columns.map declare) (key.tree "PrimaryKey") = .ok key :=
        key_tree h (h.primaryKey key hkey) (h.owns.primaryKey key hkey)
      have hadd := addConstraint_primaryKey rfl hread
      simp only [keyed, hkey]
      change (addConstraint "table" (table.columns.map declare) base (key.tree "PrimaryKey") >>=
        fun table => pure table) = _
      rw [hadd]
      rfl
  have hforeignKeys : (table.foreignKeys.map (·.tree)).foldlM
      (addConstraint "table" (table.columns.map declare)) keyed = .ok linked := by
    refine foldlM_eq_ok (fun keys => { keyed with foreignKeys := keys })
      fun before key after _ hmem => ?_
    exact addConstraint_foreignKey
      (foreignKey_tree h (h.foreignKeys key hmem) (h.owns.foreignKeys key hmem))
  have hunique : (table.uniqueConstraints.map (·.tree "Unique")).foldlM
      (addConstraint "table" (table.columns.map declare)) linked = .ok { table with columns } := by
    refine foldlM_eq_ok (fun keys => { linked with uniqueConstraints := keys })
      fun before key after _ hmem => ?_
    exact addConstraint_unique
      (key_tree h (h.uniqueConstraints key hmem) (h.owns.uniqueConstraints key hmem))
  change table.constraints.foldlM (addConstraint "table" (table.columns.map declare)) base = _
  rw [constraints, List.foldlM_append, List.foldlM_append, hprimaryKey]
  simp only [bind, Except.bind, hforeignKeys, hunique]

/-! ### Tables -/

/-- The values that a table gives to the parameters of its call. -/
def entries (table : Table) : List (String × Expr) :=
  table.headArguments.map (fun argument => (argument.name, argument.value.tree)) ++
    [("columns", table.columnsTree), ("constraints", table.constraintsTree)]

theorem optional_schema_entries (call : Call) :
    Bound.optional ⟨call, table.entries⟩ Expr.toText "schema" = .ok table.schema := by
  unfold entries headArguments
  cases table.schema <;> rfl

theorem ofBound_entries (h : table.Writable) (call : Call) :
    ofBound ⟨call, table.entries⟩ =
      .ok { table with columns := table.columns.map (·.canonical) } := by
  have hname : Bound.required ⟨call, table.entries⟩ Expr.toText "name" = .ok table.name := rfl
  have hschema := table.optional_schema_entries call
  have hcolumns : Bound.required ⟨call, table.entries⟩ Expr.toFunction "columns" =
      .ok table.columnsTree := by
    unfold entries headArguments
    cases table.schema <;> rfl
  have hconstraints : Bound.optional ⟨call, table.entries⟩ Expr.toFunction "constraints" =
      .ok (some table.constraintsTree) := by
    unfold entries headArguments
    cases table.schema <;> rfl
  have hdeclared : declaredColumns { name := table.name, schema := table.schema }
      table.columnsTree = .ok (table.columns.map declare) :=
    declaredColumns_tree h ⟨rfl, rfl⟩
  have hread : (table.columns.map declare).map (·.2) = table.columns.map (·.canonical) := by
    rw [List.map_map]
    rfl
  have hadded := addConstraints_tree h (table.columns.map (·.canonical))
  rw [ofBound, hname]
  simp only [bind, Except.bind, hschema, hcolumns, hconstraints, hdeclared, hread, hadded]

theorem ofCall_trees {call : Call} (hcall : call.arguments = table.trees) :
    Bound.ofCall call Kind.createTable.parameters = .ok ⟨call, table.entries⟩ := by
  have htrees : table.trees = table.entries.map Bound.named := by
    rw [trees, entries, List.map_append, List.map_map]
    rfl
  have hsublist : (table.entries.map (·.1)).Sublist (Parameter.table.map (·.name)) := by
    rw [entries, List.map_append, List.map_map]
    exact List.Sublist.append table.fits_headArguments.sublist
      (List.Sublist.refl ["columns", "constraints"])
  refine Bound.ofCall_eq_ok ?_ fun parameter hparameter hrequired => ?_
  · rw [hcall, htrees]
    exact Bound.add_map_named hsublist (by decide)
  · simp only [Kind.parameters, Parameter.table, List.mem_cons, List.not_mem_nil,
      or_false] at hparameter
    unfold entries headArguments
    obtain rfl | rfl | rfl | rfl := hparameter
    · rfl
    · cases hrequired
    · cases table.schema <;> rfl
    · cases hrequired

end Table

namespace Operation

/-- The statement of an operation without faults means the operation. -/
theorem operation_tree {builder : String} {operation : Operation}
    (hfault : operation.fault? = none) :
    (operation.tree builder).operation builder = .ok operation.canonical := by
  by_cases htable : operation.kind = .createTable
  · cases operation <;> cases htable
    rename_i table
    have hwritable := Table.writable_of_faults (fault?_eq_none_iff.mp hfault)
    generalize hcall : (createTable table).tree builder = call
    have harguments : call.arguments = table.trees := by
      rw [← hcall]
      rfl
    have hbound := Table.ofCall_trees harguments
    have hread := Table.ofBound_entries hwritable call
    rw [Call.operation_of_ofCall (by rw [← hcall]; rfl) (by rw [← hcall]; rfl) hbound,
      Bound.toOperation, Table.optional_schema_entries]
    exact congrArg (Except.map Operation.createTable) hread
  · exact operation_tree_of_ne htable hfault

end Operation

end MigrationScript
