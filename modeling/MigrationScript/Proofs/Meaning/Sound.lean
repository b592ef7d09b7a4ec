import MigrationScript.Proofs.Meaning.Binding
import MigrationScript.Proofs.Meaning.Run
import MigrationScript.Proofs.Operation.Sound

namespace MigrationScript

namespace Bound

variable {bound : Bound} {schema : Option String}

theorem ensures_oneDefault (column : Column) :
    Ensures (bound.columnOptions column) Column.OneDefault := by
  unfold columnOptions
  refine .bind fun _ hexclusive => .bind fun _ _ => ?_
  refine .bind fun defaultValue hvalue => .bind fun defaultExpression hexpression => .ok ?_
  refine Bool.eq_false_iff.mpr fun hboth => exclusive_eq_ok_iff.mp hexclusive ?_
  rw [Bool.and_eq_true] at hboth
  exact ⟨isSome_of_optional_eq_ok hvalue ▸ hboth.1,
    isSome_of_optional_eq_ok hexpression ▸ hboth.2⟩

theorem ensures_requiredColumns (singular plural : String) :
    Ensures (bound.requiredColumns singular plural) (· ≠ []) := by
  unfold requiredColumns
  refine .bind fun columns _ => ?_
  split
  · exact .error
  · rename_i h
    exact .ok fun heq => h (heq ▸ rfl)

/-! ### Operations that declare no table -/

theorem ensures_oneDefault_toColumn : Ensures (bound.toColumn schema) Column.OneDefault := by
  unfold toColumn
  iterate 3 refine .bind fun _ _ => ?_
  exact ensures_oneDefault _

theorem ensures_columns_toForeignKey :
    Ensures (bound.toForeignKey schema) fun key => key.columns ≠ [] := by
  unfold toForeignKey
  refine .bind fun name _ => .bind fun table _ => .bind fun columns hcolumns => ?_
  have hcolumns := ensures_requiredColumns _ _ _ hcolumns
  exact (bound.ensures_reference _).mono fun key hkey => hkey.2.2.2 ▸ hcolumns

theorem ensures_columns_toKey : Ensures (bound.toKey schema) fun key => key.columns ≠ [] := by
  unfold toKey
  refine .bind fun name _ => .bind fun table _ => .bind fun columns hcolumns => .ok ?_
  exact ensures_requiredColumns _ _ _ hcolumns

theorem ensures_columns_toIndex : Ensures (bound.toIndex schema) fun index => index.columns ≠ [] := by
  unfold toIndex
  refine .bind fun key hkey => .bind fun _ _ => .ok ?_
  exact ensures_columns_toKey _ hkey

end Bound

/-! ### Tables -/

namespace Table

variable {table : Table} {declared : DeclaredColumns} {parameter identifier : String}

theorem ensures_oneDefault_column (call : Call) :
    Ensures (table.column parameter identifier call) Column.OneDefault := by
  unfold column
  refine .bind fun _ _ => ?_
  split
  · exact .error
  iterate 3 refine .bind fun _ _ => ?_
  exact Bound.ensures_oneDefault _

theorem ensures_oneDefault_addColumn (hdeclared : ∀ entry ∈ declared, entry.2.OneDefault)
    (member : Member) :
    Ensures (table.addColumn parameter declared member) fun declared =>
      ∀ entry ∈ declared, entry.2.OneDefault := by
  unfold addColumn
  split
  · exact .error
  · refine .bind fun column hcolumn => ?_
    split
    · exact .error
    · refine .ok fun entry hentry => ?_
      obtain hentry | hentry := List.mem_append.mp hentry
      · exact hdeclared entry hentry
      · rw [List.mem_singleton.mp hentry]
        exact ensures_oneDefault_column _ column hcolumn
  · exact .error

theorem ensures_oneDefault_declaredColumns (function : Expr) :
    Ensures (table.declaredColumns function) fun declared =>
      ∀ entry ∈ declared, entry.2.OneDefault := by
  unfold declaredColumns
  split
  · refine ensures_foldlM (fun _ _ _ hdeclared => ensures_oneDefault_addColumn hdeclared _) ?_
    exact fun entry hentry => absurd hentry List.not_mem_nil
  · exact .error
  · exact .error

/-- A column that is selected is one of those declared. -/
theorem ensures_selected (segments : List String) (span : Span) :
    Ensures (selected declared parameter segments span) (· ∈ declared.map (·.2.name)) := by
  unfold selected
  split
  · split
    · split
      · rename_i hlookup
        obtain ⟨before, after, hdeclared, -⟩ := List.lookup_eq_some_iff.mp hlookup
        rw [hdeclared, List.map_append, List.map_cons]
        exact .ok (List.mem_append_right _ List.mem_cons_self)
      · exact .error
    · exact .error
  · exact .error

theorem ensures_selection (function : Expr) :
    Ensures (selection declared function) fun selected =>
      ∀ name ∈ selected, name ∈ declared.map (·.2.name) := by
  unfold selection
  split
  · refine .bind fun name hname => .ok fun other hother => ?_
    rw [List.mem_singleton.mp hother]
    exact ensures_selected _ _ _ hname
  · refine ensures_mapM fun member => ?_
    unfold selectedMember
    split
    · exact ensures_selected _ _
    · exact .error
  · exact .error
  · exact .error

variable (hcolumns : table.columns = declared.map (·.2))

include hcolumns

theorem declares_of_declared {selected : List String}
    (h : ∀ name ∈ selected, name ∈ declared.map (·.2.name)) : table.Declares selected := by
  intro name hname
  obtain ⟨entry, hentry, rfl⟩ := List.mem_map.mp (h name hname)
  rw [hcolumns]
  exact ⟨entry.2, List.mem_map_of_mem hentry, rfl⟩

theorem ensures_declares_key (call : Call) :
    Ensures (table.key declared call) fun key => table.Declares key.columns := by
  unfold key
  refine .bind fun _ _ => .bind fun name _ => .bind fun function _ => ?_
  refine .bind fun columns hselected => .ok ?_
  exact declares_of_declared hcolumns (ensures_selection _ _ hselected)

theorem ensures_declares_foreignKey (call : Call) :
    Ensures (table.foreignKey declared call) fun key => table.Declares key.columns := by
  unfold foreignKey
  refine .bind fun _ _ => .bind fun name _ => .bind fun function _ => ?_
  refine .bind fun columns hselected => ?_
  refine (Bound.ensures_reference _ _).mono fun key hkey => ?_
  rw [hkey.2.2.2]
  exact declares_of_declared hcolumns (ensures_selection _ _ hselected)

/-- A constraint that is added selects columns of the table, which keeps its columns. -/
theorem ensures_selects_addConstraint (h : table.Selects) (call : Call) :
    Ensures (addConstraint parameter declared table call) fun made =>
      made.columns = table.columns ∧ made.Selects := by
  unfold addConstraint
  refine .bind fun _ _ => ?_
  split
  · split
    · exact .error
    · refine .bind fun key hkey => .ok ⟨rfl, { h with primaryKey := fun found hfound => ?_ }⟩
      cases hfound
      exact ensures_declares_key hcolumns _ key hkey
  · refine .bind fun key hkey => .ok ⟨rfl, { h with foreignKeys := fun found hfound => ?_ }⟩
    obtain hfound | hfound := List.mem_append.mp hfound
    · exact h.foreignKeys found hfound
    · rw [List.mem_singleton.mp hfound]
      exact ensures_declares_foreignKey hcolumns _ key hkey
  · refine .bind fun key hkey => .ok ⟨rfl, { h with uniqueConstraints := fun found hfound => ?_ }⟩
    obtain hfound | hfound := List.mem_append.mp hfound
    · exact h.uniqueConstraints found hfound
    · rw [List.mem_singleton.mp hfound]
      exact ensures_declares_key hcolumns _ key hkey
  · exact .error

theorem ensures_selects_addConstraints (h : table.Selects) (function : Expr) :
    Ensures (table.addConstraints declared function) fun made =>
      made.columns = declared.map (·.2) ∧ made.Selects := by
  unfold addConstraints
  split
  · refine ensures_foldlM (fun made call _ hmade => ?_) ⟨hcolumns, h⟩
    refine (ensures_selects_addConstraint hmade.1 hmade.2 call).mono fun next hnext => ?_
    exact ⟨hnext.1.trans hmade.1, hnext.2⟩
  · exact .error

omit hcolumns

/-- A table that has been read is sound. -/
theorem ensures_sound (bound : Bound) : Ensures (ofBound bound) Sound := by
  suffices h : Ensures (ofBound bound) fun table =>
      (∀ column ∈ table.columns, column.OneDefault) ∧ table.Selects from fun table htable =>
    ⟨ensures_ofBound bound table htable, (h table htable).1, (h table htable).2⟩
  unfold ofBound
  refine .bind fun name _ => .bind fun schema _ => .bind fun function _ => ?_
  refine .bind fun declared hdeclared => .bind fun constraints _ => ?_
  have hdefault : ∀ column ∈ declared.map (·.2), column.OneDefault := by
    intro column hcolumn
    obtain ⟨entry, hentry, rfl⟩ := List.mem_map.mp hcolumn
    exact ensures_oneDefault_declaredColumns _ _ hdeclared entry hentry
  have hselects : Selects { name, schema, columns := declared.map (·.2) } := by
    constructor <;> simp
  split
  · refine (ensures_selects_addConstraints rfl hselects _).mono fun table htable => ?_
    exact ⟨htable.1 ▸ hdefault, htable.2⟩
  · exact .ok ⟨hdefault, hselects⟩

end Table

/-! ### Statements and runs -/

theorem Bound.ensures_sound {bound : Bound} (kind : Kind) :
    Ensures (bound.toOperation kind) Operation.Sound := by
  unfold toOperation
  refine .bind fun schema _ => ?_
  cases kind with
  | addColumn | alterColumn =>
    exact .bind fun column hcolumn => .ok (ensures_oneDefault_toColumn column hcolumn)
  | addForeignKey => exact .bind fun key hkey => .ok (ensures_columns_toForeignKey key hkey)
  | addPrimaryKey | addUniqueConstraint =>
    exact .bind fun key hkey => .ok (ensures_columns_toKey key hkey)
  | createIndex => exact .bind fun index hindex => .ok (ensures_columns_toIndex index hindex)
  | createTable =>
    exact .bind fun table htable => .ok (Table.ensures_sound bound table htable)
  | _ => exact .bind fun _ _ => .ok trivial

theorem Call.ensures_sound (builder : String) (statement : Call) :
    Ensures (statement.operation builder) Operation.Sound := by
  unfold operation
  refine .bind fun _ _ => ?_
  split
  · exact .bind fun _ _ => Bound.ensures_sound _
  · exact fun _ h => by cases h

theorem Call.Appends.sound {builder : String} {statement : Call} {operation : Operation}
    (h : statement.Appends builder operation) : operation.Sound :=
  ensures_sound builder statement operation (appends_iff_operation.mp h)

theorem Ran.sound {builder : String} {statements : List Call} {operations : List Operation}
    {outcome : Except ScriptError Unit} (h : Ran builder statements operations outcome) :
    ∀ operation ∈ operations, operation.Sound := by
  have happends := h.appends
  clear h
  generalize statements.take operations.length = executed at happends
  induction happends with
  | nil => exact fun _ hmem => absurd hmem List.not_mem_nil
  | cons hhead _ ih => exact List.forall_mem_cons.mpr ⟨hhead.sound, ih⟩

/-- Every operation that a run records, also where the run fails later, is sound. What it can lack is
the text of a name, or that a column has an identifier of its own. -/
theorem run_records_sound (builder source : String) (recorded : List Operation) :
    ∃ operations, (run builder source recorded).1 = recorded ++ operations ∧
      ∀ operation ∈ operations, operation.Sound ∧
        ∀ fault, operation.fault? = some fault → fault.OfText := by
  cases hparse : parse source with
  | error error =>
    refine ⟨[], ?_, fun _ hmem => absurd hmem List.not_mem_nil⟩
    rw [run_of_parse_error hparse, List.append_nil]
  | ok statements =>
    obtain ⟨operations, outcome, hran, hrun⟩ := exists_ran_of_parse hparse
    refine ⟨operations, congrArg Prod.fst (hrun recorded), fun operation hmem => ?_⟩
    exact ⟨hran.sound operation hmem, fun fault => (hran.sound operation hmem).ofText⟩

end MigrationScript
