import MigrationScript.Proofs.Meaning.Culprit

/-!
# Where errors point

Every conversion of an argument can fail only at a node of its argument, and every step of a
statement only at a node of the statement.
-/

namespace MigrationScript

variable {statement : Call} {bound : Bound} {name : String} {value : Expr}

/-! ### Values

Each conversion reads the kinds of values that are admitted; for all others it fails at the value. -/

theorem Bound.IsOf.mismatch {α : Type} (h : bound.IsOf statement)
    (hvalue : bound.value? name = some value) {wanted : Wanted}
    (hadmits : wanted.admits value = false) (hname : wanted = .string → name ∉ textsNames) :
    Errs (value.mismatch name wanted : Except ScriptError α) (PointsInto statement) :=
  .error (Culprit.mismatch h hvalue hadmits hname).points

theorem Bound.IsOf.outOfRange {α : Type} (h : bound.IsOf statement) {number : Int} {isLong : Bool}
    {span : Span} (hvalue : bound.value? name = some (.constant (.integer number isLong) span))
    {width : IntegerWidth} (hfits : width.fits number = false) :
    Errs (Expr.outOfRange name width (.constant (.integer number isLong) span) :
      Except ScriptError α) (PointsInto statement) :=
  .error (Culprit.outOfRange h hvalue hfits).points

/-- Where the conversion fails for the value of a parameter, the error points into the statement. -/
def Conversion.Points {α : Type} (convert : Conversion α) (name : String) : Prop :=
  ∀ ⦃statement : Call⦄ ⦃bound : Bound⦄ ⦃value : Expr⦄, bound.IsOf statement →
    bound.value? name = some value → Errs (convert name value) (PointsInto statement)

namespace Expr

theorem points_toText (hname : name ∉ textsNames) : Conversion.Points toText name := by
  intro statement bound value h hvalue
  unfold toText
  split
  · exact .ok
  · refine h.mismatch hvalue ?_ fun _ => hname
    unfold Wanted.admits
    split <;> simp_all

theorem points_toBool : Conversion.Points toBool name := by
  intro statement bound value h hvalue
  unfold toBool
  split
  · exact .ok
  · refine h.mismatch hvalue ?_ (by simp)
    unfold Wanted.admits
    split <;> simp_all

theorem points_toInt : Conversion.Points toInt name := by
  intro statement bound value h hvalue
  unfold toInt
  split
  · split
    · exact .ok
    · rename_i hnone
      exact h.outOfRange hvalue (congrArg Option.isSome hnone)
  · refine h.mismatch hvalue ?_ (by simp)
    unfold Wanted.admits
    split <;> simp_all

theorem points_toLong : Conversion.Points toLong name := by
  intro statement bound value h hvalue
  unfold toLong
  split
  · split
    · exact .ok
    · rename_i hnone
      exact h.outOfRange hvalue (congrArg Option.isSome hnone)
  · refine h.mismatch hvalue ?_ (by simp)
    unfold Wanted.admits
    split <;> simp_all

/-- A number without a short form that has no long form either is out of range for both. -/
theorem int64?_of_integerDefault? {number : Int} {isLong : Bool}
    (h : integerDefault? number isLong = none) : int64? number = none := by
  unfold integerDefault? at h
  split at h
  · cases h
  · exact Option.map_eq_none_iff.mp h

theorem points_toDefault : Conversion.Points toDefault name := by
  intro statement bound value h hvalue
  unfold toDefault
  split
  · exact .ok
  · exact .ok
  · exact .ok
  · split
    · exact .ok
    · rename_i hnone
      exact h.outOfRange hvalue (congrArg Option.isSome (int64?_of_integerDefault? hnone))
  · split
    · exact .ok
    · rename_i hnone
      exact h.mismatch hvalue (congrArg Option.isSome hnone) (by simp)
  · refine h.mismatch hvalue ?_ (by simp)
    unfold Wanted.admits
    split <;> simp_all

theorem points_toAction : Conversion.Points toAction name := by
  intro statement bound value h hvalue
  unfold toAction
  split
  · split
    · exact .ok
    · rename_i hnone
      exact .error (Culprit.unknownReferentialAction h hvalue hnone).points
  · refine h.mismatch hvalue ?_ (by simp)
    unfold Wanted.admits
    split <;> simp_all

theorem points_toTexts (hname : name ∈ textsNames) : Conversion.Points toTexts name := by
  intro statement bound value h hvalue
  unfold toTexts
  split
  · refine errs_mapM fun item hitem => ?_
    unfold toText
    split
    · exact .ok
    · refine .error (Culprit.element h hvalue hname hitem ?_).points
      unfold Wanted.admits
      split <;> simp_all
  · refine h.mismatch hvalue ?_ (by simp)
    unfold Wanted.admits
    split <;> simp_all

theorem eq_array_of_toTexts (h : toTexts name value = .ok []) :
    ∃ span, value = .array [] span := by
  unfold toTexts at h
  split at h
  · rename_i items span
    cases items with
    | nil => exact ⟨span, rfl⟩
    | cons item rest =>
      rw [List.mapM_cons] at h
      obtain ⟨text, -, h⟩ := except_bind_eq_ok.mp h
      obtain ⟨texts, -, h⟩ := except_bind_eq_ok.mp h
      cases h
  · cases h

theorem points_toFunction : Conversion.Points toFunction name := by
  intro statement bound value h hvalue
  unfold toFunction
  split
  · exact .ok
  · exact .ok
  · refine h.mismatch hvalue ?_ (by simp)
    unfold Wanted.admits
    split <;> simp_all

end Expr

namespace Bound

section Values

variable {α : Type} {convert : Conversion α}

theorem optional_cases {result : Option α} (h : bound.optional convert name = .ok result) :
    (bound.value? name = none ∧ result = none) ∨
    ∃ value read, bound.value? name = some value ∧ convert name value = .ok read ∧
      result = some read := by
  unfold optional at h
  split at h
  · rename_i value hvalue
    cases hread : convert name value with
    | error error =>
      rw [hread] at h
      cases h
    | ok read =>
      rw [hread] at h
      cases h
      exact .inr ⟨value, read, hvalue, hread, rfl⟩
  · rename_i hnone
    cases h
    exact .inl ⟨hnone, rfl⟩

/-- Where no column is given there is no array, or nothing in it. -/
theorem lacks_of_columns {singular plural : String} (h : bound.columns singular plural = .ok []) :
    bound.Lacks plural := by
  unfold columns at h
  obtain ⟨_, -, h⟩ := except_bind_eq_ok.mp h
  obtain ⟨column, -, h⟩ := except_bind_eq_ok.mp h
  split at h
  · cases h
  obtain ⟨texts, htexts, h⟩ := except_bind_eq_ok.mp h
  rcases optional_cases htexts with ⟨hnone, -⟩ | ⟨value, read, hvalue, hread, rfl⟩
  · exact .inl hnone
  · obtain rfl : read = [] := Except.ok.inj h
    obtain ⟨span, rfl⟩ := Expr.eq_array_of_toTexts hread
    exact .inr ⟨span, hvalue⟩

end Values

namespace IsOf

variable {α : Type} {convert : Conversion α}

theorem errs_optional (h : bound.IsOf statement) (hconvert : convert.Points name) :
    Errs (bound.optional convert name) (PointsInto statement) := by
  unfold optional
  split
  · rename_i hvalue
    exact (hconvert h hvalue).map
  · exact .ok

theorem errs_missing (h : bound.IsOf statement) (hlacks : bound.Lacks name) :
    Errs (.error (bound.missing name) : Except ScriptError α) (PointsInto statement) :=
  .error (Culprit.missingArgument h hlacks).points

theorem errs_required (h : bound.IsOf statement) (hconvert : convert.Points name) :
    Errs (bound.required convert name) (PointsInto statement) := by
  unfold required
  split
  · rename_i hvalue
    exact hconvert h hvalue
  · rename_i hnone
    exact h.errs_missing (.inl hnone)

theorem errs_text (h : bound.IsOf statement) (hname : name ∉ textsNames) :
    Errs (bound.required Expr.toText name) (PointsInto statement) :=
  h.errs_required (Expr.points_toText hname)

theorem errs_text? (h : bound.IsOf statement) (hname : name ∉ textsNames) :
    Errs (bound.optional Expr.toText name) (PointsInto statement) :=
  h.errs_optional (Expr.points_toText hname)

theorem errs_columns (h : bound.IsOf statement) {singular plural : String}
    (hsingular : singular ∉ textsNames) (hplural : plural ∈ textsNames) :
    Errs (bound.columns singular plural) (PointsInto statement) := by
  unfold columns
  refine .bind (h.errs_exclusive singular plural) fun _ _ => ?_
  refine .bind (h.errs_text? hsingular) fun column _ => ?_
  split
  · exact .ok
  · exact .bind (h.errs_optional (Expr.points_toTexts hplural)) fun _ _ => .ok

theorem errs_requiredColumns (h : bound.IsOf statement) :
    Errs (bound.requiredColumns "column" "columns") (PointsInto statement) := by
  unfold requiredColumns
  refine .bind (h.errs_columns (by decide) (by decide)) fun columns hcolumns => ?_
  split
  · rename_i hempty
    rw [List.isEmpty_iff.mp hempty] at hcolumns
    exact h.errs_missing (lacks_of_columns hcolumns)
  · exact .ok

theorem errs_columnOptions (h : bound.IsOf statement) (column : Column) :
    Errs (bound.columnOptions column) (PointsInto statement) := by
  unfold columnOptions
  refine .bind (h.errs_exclusive _ _) fun _ _ => ?_
  refine .bind (h.errs_optional Expr.points_toBool) fun _ _ => ?_
  refine .bind (h.errs_optional Expr.points_toDefault) fun _ _ => ?_
  exact .bind (h.errs_text? (by decide)) fun _ _ => .ok

theorem errs_reference (h : bound.IsOf statement) (key : ForeignKey) :
    Errs (bound.reference key) (PointsInto statement) := by
  unfold reference
  refine .bind (h.errs_text? (by decide)) fun _ _ => ?_
  refine .bind (h.errs_text (by decide)) fun _ _ => ?_
  refine .bind (h.errs_columns (by decide) (by decide)) fun _ _ => ?_
  refine .bind (h.errs_optional Expr.points_toAction) fun _ _ => ?_
  exact .bind (h.errs_optional Expr.points_toAction) fun _ _ => .ok

end IsOf

end Bound

/-! ### Tables -/

section Functions

variable {function : Expr}

theorem Expr.eq_of_toFunction (h : toFunction name value = .ok function) : function = value := by
  unfold toFunction at h
  split at h <;> cases h <;> rfl

/-- A function that is read stands in the statement. -/
theorem Bound.IsOf.within_required (h : bound.IsOf statement)
    (hrequired : bound.required Expr.toFunction name = .ok function) :
    Within (.call statement) (.expr function) := by
  unfold required at hrequired
  split at hrequired
  · rename_i hvalue
    exact Expr.eq_of_toFunction hrequired ▸ h.within_value hvalue
  · cases hrequired

theorem Bound.IsOf.within_optional (h : bound.IsOf statement)
    (hoptional : bound.optional Expr.toFunction name = .ok (some function)) :
    Within (.call statement) (.expr function) := by
  rcases Bound.optional_cases hoptional with ⟨-, hnone⟩ | ⟨value, read, hvalue, hread, hsome⟩
  · cases hnone
  · cases hsome
    exact Expr.eq_of_toFunction hread ▸ h.within_value hvalue

end Functions

section Calls

variable {call : Call} (h : Within (.call statement) (.call call))

include h

theorem Call.errs_addresses (target : String) :
    Errs (call.addresses target) (PointsInto statement) := by
  unfold addresses
  split
  · exact .ok
  · rename_i hne
    exact .error (Culprit.unknownTarget h hne).points

theorem Call.errs_unknownMethod {α : Type} :
    Errs (call.unknownMethod : Except ScriptError α) (PointsInto statement) :=
  .error (Culprit.unknownMethod h).points

end Calls

namespace Table

variable {table : Table} {declared : DeclaredColumns} {parameter identifier : String}
  {call : Call} {member : Member} {function : Expr}

theorem errs_column (h : Within (.call statement) (.call call)) :
    Errs (table.column parameter identifier call) (PointsInto statement) := by
  unfold column
  refine .bind (Call.errs_addresses h _) fun _ _ => ?_
  split
  · exact Call.errs_unknownMethod h
  rename_i hmethod
  have htakes : Takes statement call Parameter.declaredColumn :=
    .column h (Decidable.not_not.mp hmethod)
  refine .bind (Bound.errs_ofCall htakes) fun bound hbound => ?_
  have hbound := Bound.isOf_of_ofCall htakes hbound
  refine .bind (hbound.errs_text? (by decide)) fun _ _ => ?_
  refine .bind (hbound.errs_text (by decide)) fun _ _ => ?_
  exact hbound.errs_columnOptions _

theorem errs_addColumn (h : Within (.call statement) (.member member)) :
    Errs (table.addColumn parameter declared member) (PointsInto statement) := by
  unfold addColumn
  split
  · exact .error (Culprit.namedColumn h).points
  · rename_i identifier call span
    have hcall : Within (.call statement) (.call call) :=
      (h.child (List.mem_singleton_self _)).child (List.mem_singleton_self _)
    refine .bind (errs_column hcall) fun column _ => ?_
    split
    · exact .error (Culprit.duplicateColumn h).points
    · exact .ok
  · rename_i hne
    exact .error (Culprit.columnDeclaration h hne).points

theorem errs_declaredColumns (h : Within (.call statement) (.expr function)) :
    Errs (table.declaredColumns function) (PointsInto statement) := by
  unfold declaredColumns
  split
  · refine errs_foldlM (fun declared member hmember => errs_addColumn ?_) _
    exact (h.child (List.mem_singleton_self _)).child (List.mem_map_of_mem hmember)
  · exact .error (Culprit.columnObject (h.child (List.mem_singleton_self _))).points
  · exact .error (Culprit.columnObject h).points

/-- A selection of a column is at fault itself. -/
theorem errs_selected {segments : List String} {span : Span} {node : Node}
    (h : Within (.call statement) node)
    (hnode : node = .expr (.path segments span) ∨ node = .member (.path segments span)) :
    Errs (selected declared parameter segments span) (PointsInto statement) := by
  have hspan : span = node.span := by
    rcases hnode with rfl | rfl <;> rfl
  unfold selected
  split
  · split
    · split
      · exact .ok
      · exact .error ⟨node, .unknownColumn h hnode, hspan⟩
    · exact .error ⟨node, .columnSelector h, hspan⟩
  · exact .error ⟨node, .columnSelector h, hspan⟩

theorem errs_selection (h : Within (.call statement) (.expr function)) :
    Errs (selection declared function) (PointsInto statement) := by
  unfold selection
  split
  · exact .bind (errs_selected (h.child (List.mem_singleton_self _)) (.inl rfl)) fun _ _ => .ok
  · refine errs_mapM fun member hmember => ?_
    have hmember := (h.child (List.mem_singleton_self _)).child (List.mem_map_of_mem hmember)
    unfold selectedMember
    split
    · exact errs_selected hmember (.inr rfl)
    · exact .error (Culprit.columnSelector hmember).points
  · exact .error (Culprit.columnSelector (h.child (List.mem_singleton_self _))).points
  · exact .error (Culprit.columnSelector h).points

theorem errs_key (htakes : Takes statement call Parameter.declaredKey) :
    Errs (table.key declared call) (PointsInto statement) := by
  unfold key
  refine .bind (Bound.errs_ofCall htakes) fun bound hbound => ?_
  have hbound := Bound.isOf_of_ofCall htakes hbound
  refine .bind (hbound.errs_text (by decide)) fun _ _ => ?_
  refine .bind (hbound.errs_required Expr.points_toFunction) fun function hfunction => ?_
  exact .bind (errs_selection (hbound.within_required hfunction)) fun _ _ => .ok

theorem errs_foreignKey (htakes : Takes statement call Parameter.declaredForeignKey) :
    Errs (table.foreignKey declared call) (PointsInto statement) := by
  unfold foreignKey
  refine .bind (Bound.errs_ofCall htakes) fun bound hbound => ?_
  have hbound := Bound.isOf_of_ofCall htakes hbound
  refine .bind (hbound.errs_text (by decide)) fun _ _ => ?_
  refine .bind (hbound.errs_required Expr.points_toFunction) fun function hfunction => ?_
  refine .bind (errs_selection (hbound.within_required hfunction)) fun _ _ => ?_
  exact hbound.errs_reference _

theorem errs_addConstraint (h : Within (.call statement) (.call call)) :
    Errs (addConstraint parameter declared table call) (PointsInto statement) := by
  unfold addConstraint
  refine .bind (Call.errs_addresses h _) fun _ _ => ?_
  split
  · rename_i hmethod
    split
    · exact .error (Culprit.duplicatePrimaryKey h hmethod).points
    · exact .bind (errs_key (.key h (.inl hmethod))) fun _ _ => .ok
  · rename_i hmethod
    exact .bind (errs_foreignKey (.foreignKey h hmethod)) fun _ _ => .ok
  · rename_i hmethod
    exact .bind (errs_key (.key h (.inr hmethod))) fun _ _ => .ok
  · exact Call.errs_unknownMethod h

theorem errs_addConstraints (h : Within (.call statement) (.expr function)) :
    Errs (table.addConstraints declared function) (PointsInto statement) := by
  unfold addConstraints
  split
  · refine errs_foldlM (fun table call hcall => errs_addConstraint ?_) _
    exact h.child (List.mem_map_of_mem hcall)
  · exact .error (Culprit.statementBlock h).points

theorem errs_ofBound (h : bound.IsOf statement) : Errs (ofBound bound) (PointsInto statement) := by
  unfold ofBound
  refine .bind (h.errs_text (by decide)) fun _ _ => ?_
  refine .bind (h.errs_text? (by decide)) fun _ _ => ?_
  refine .bind (h.errs_required Expr.points_toFunction) fun function hfunction => ?_
  refine .bind (errs_declaredColumns (h.within_required hfunction)) fun declared _ => ?_
  refine .bind (h.errs_optional Expr.points_toFunction) fun constraints hconstraints => ?_
  split
  · exact errs_addConstraints (h.within_optional hconstraints)
  · exact .ok

end Table

/-! ### Statements -/

namespace Bound.IsOf

variable {schema : Option String}

theorem errs_toColumn (h : bound.IsOf statement) :
    Errs (bound.toColumn schema) (PointsInto statement) := by
  unfold toColumn
  refine .bind (h.errs_text (by decide)) fun _ _ => ?_
  refine .bind (h.errs_text (by decide)) fun _ _ => ?_
  refine .bind (h.errs_text (by decide)) fun _ _ => ?_
  exact h.errs_columnOptions _

theorem errs_toForeignKey (h : bound.IsOf statement) :
    Errs (bound.toForeignKey schema) (PointsInto statement) := by
  unfold toForeignKey
  refine .bind (h.errs_text (by decide)) fun _ _ => ?_
  refine .bind (h.errs_text (by decide)) fun _ _ => ?_
  refine .bind h.errs_requiredColumns fun _ _ => ?_
  exact h.errs_reference _

theorem errs_toKey (h : bound.IsOf statement) :
    Errs (bound.toKey schema) (PointsInto statement) := by
  unfold toKey
  refine .bind (h.errs_text (by decide)) fun _ _ => ?_
  refine .bind (h.errs_text (by decide)) fun _ _ => ?_
  exact .bind h.errs_requiredColumns fun _ _ => .ok

theorem errs_toIndex (h : bound.IsOf statement) :
    Errs (bound.toIndex schema) (PointsInto statement) := by
  unfold toIndex
  refine .bind h.errs_toKey fun _ _ => ?_
  exact .bind (h.errs_optional Expr.points_toBool) fun _ _ => .ok

theorem errs_toSequenceChange (h : bound.IsOf statement) :
    Errs (bound.toSequenceChange schema) (PointsInto statement) := by
  unfold toSequenceChange
  refine .bind (h.errs_text (by decide)) fun _ _ => ?_
  refine .bind (h.errs_optional Expr.points_toInt) fun _ _ => ?_
  refine .bind (h.errs_optional Expr.points_toLong) fun _ _ => ?_
  refine .bind (h.errs_optional Expr.points_toLong) fun _ _ => ?_
  exact .bind (h.errs_optional Expr.points_toBool) fun _ _ => .ok

theorem errs_toSequence (h : bound.IsOf statement) :
    Errs (bound.toSequence schema) (PointsInto statement) := by
  unfold toSequence
  refine .bind (h.errs_text (by decide)) fun _ _ => ?_
  refine .bind (h.errs_text? (by decide)) fun _ _ => ?_
  refine .bind (h.errs_optional Expr.points_toLong) fun _ _ => ?_
  refine .bind (h.errs_optional Expr.points_toInt) fun _ _ => ?_
  refine .bind (h.errs_optional Expr.points_toLong) fun _ _ => ?_
  refine .bind (h.errs_optional Expr.points_toLong) fun _ _ => ?_
  exact .bind (h.errs_optional Expr.points_toBool) fun _ _ => .ok

theorem errs_toTableMember (h : bound.IsOf statement) :
    Errs (bound.toTableMember schema) (PointsInto statement) := by
  unfold toTableMember
  refine .bind (h.errs_text (by decide)) fun _ _ => ?_
  exact .bind (h.errs_text (by decide)) fun _ _ => .ok

theorem errs_toSchemaObject (h : bound.IsOf statement) :
    Errs (bound.toSchemaObject schema) (PointsInto statement) := by
  unfold toSchemaObject
  exact .bind (h.errs_text (by decide)) fun _ _ => .ok

theorem errs_toSchemaName (h : bound.IsOf statement) :
    Errs bound.toSchemaName (PointsInto statement) := by
  unfold toSchemaName
  exact .bind (h.errs_text (by decide)) fun _ _ => .ok

theorem errs_toMemberRename (h : bound.IsOf statement) :
    Errs (bound.toMemberRename schema) (PointsInto statement) := by
  unfold toMemberRename
  refine .bind (h.errs_text (by decide)) fun _ _ => ?_
  refine .bind (h.errs_text (by decide)) fun _ _ => ?_
  exact .bind (h.errs_text (by decide)) fun _ _ => .ok

theorem errs_toObjectRename (h : bound.IsOf statement) :
    Errs (bound.toObjectRename schema) (PointsInto statement) := by
  unfold toObjectRename
  refine .bind (h.errs_text (by decide)) fun _ _ => ?_
  refine .bind (h.errs_text? (by decide)) fun _ _ => ?_
  exact .bind (h.errs_text? (by decide)) fun _ _ => .ok

theorem errs_toSequenceRestart (h : bound.IsOf statement) :
    Errs (bound.toSequenceRestart schema) (PointsInto statement) := by
  unfold toSequenceRestart
  refine .bind (h.errs_text (by decide)) fun _ _ => ?_
  exact .bind (h.errs_required Expr.points_toLong) fun _ _ => .ok

theorem errs_toSqlText (h : bound.IsOf statement) :
    Errs bound.toSqlText (PointsInto statement) := by
  unfold toSqlText
  refine .bind (h.errs_text (by decide)) fun _ _ => ?_
  exact .bind (h.errs_optional Expr.points_toBool) fun _ _ => .ok

theorem errs_toOperation (h : bound.IsOf statement) (kind : Kind) :
    Errs (bound.toOperation kind) (PointsInto statement) := by
  unfold toOperation
  refine .bind (h.errs_text? (by decide)) fun schema _ => ?_
  cases kind with
  | addColumn | alterColumn => exact .bind h.errs_toColumn fun _ _ => .ok
  | addForeignKey => exact .bind h.errs_toForeignKey fun _ _ => .ok
  | addPrimaryKey | addUniqueConstraint => exact .bind h.errs_toKey fun _ _ => .ok
  | alterSequence => exact .bind h.errs_toSequenceChange fun _ _ => .ok
  | createIndex => exact .bind h.errs_toIndex fun _ _ => .ok
  | createSchema | dropSchema => exact .bind h.errs_toSchemaName fun _ _ => .ok
  | createSequence => exact .bind h.errs_toSequence fun _ _ => .ok
  | createTable => exact .bind (Table.errs_ofBound h) fun _ _ => .ok
  | dropColumn | dropForeignKey | dropIndex | dropPrimaryKey | dropUniqueConstraint =>
    exact .bind h.errs_toTableMember fun _ _ => .ok
  | dropSequence | dropTable => exact .bind h.errs_toSchemaObject fun _ _ => .ok
  | renameColumn | renameIndex => exact .bind h.errs_toMemberRename fun _ _ => .ok
  | renameSequence | renameTable => exact .bind h.errs_toObjectRename fun _ _ => .ok
  | restartSequence => exact .bind h.errs_toSequenceRestart fun _ _ => .ok
  | sql => exact .bind h.errs_toSqlText fun _ _ => .ok

end Bound.IsOf

/-- Where a statement fails, the error has the span of the node of the statement that is at
fault. -/
theorem Call.errs_operation (builder : String) (statement : Call) :
    Errs (statement.operation builder) (PointsInto statement) := by
  unfold operation
  refine .bind (errs_addresses .self builder) fun _ _ => ?_
  split
  · rename_i kind hkind
    refine .bind (Bound.errs_ofCall (.statement hkind)) fun bound hbound => ?_
    exact (Bound.isOf_of_ofCall (.statement hkind) hbound).errs_toOperation kind
  · exact errs_unknownMethod .self

end MigrationScript
