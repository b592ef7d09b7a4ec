import MigrationScript.Proofs.Meaning.Given
import MigrationScript.Proofs.Meaning.Run
import MigrationScript.Proofs.Operation.Canonical
import MigrationScript.Proofs.Operation.Writable

namespace MigrationScript

open WrittenArgument

/-! ### Values -/

namespace Expr

variable {argument : String}

@[simp]
theorem toText_tree (text : String) :
    toText argument (WrittenValue.constant (.string text)).tree = .ok text :=
  rfl

@[simp]
theorem toBool_tree (value : Bool) :
    toBool argument (WrittenValue.constant (.bool value)).tree = .ok value :=
  rfl

@[simp]
theorem toInt_tree (value : Int32) :
    toInt argument (WrittenValue.constant (.int value)).tree = .ok value := by
  simp only [WrittenValue.tree, DefaultValue.tree, toInt, int32?_toInt]

@[simp]
theorem toLong_tree (value : Int64) :
    toLong argument (WrittenValue.constant (.long value)).tree = .ok value := by
  simp only [WrittenValue.tree, DefaultValue.tree, toLong, int64?_toInt]

@[simp]
theorem toAction_tree (action : ReferentialAction) :
    toAction argument (WrittenValue.action action).tree = .ok action := by
  have hname : ReferentialAction.ofName? action.name = some action :=
    ReferentialAction.ofName?_eq_some_iff.mpr rfl
  simp only [WrittenValue.tree, toAction, hname]

@[simp]
theorem toTexts_tree (texts : List String) :
    toTexts argument (WrittenValue.strings texts).tree = .ok texts := by
  rw [WrittenValue.tree, toTexts]
  induction texts with
  | nil => rfl
  | cons text rest ih =>
    rw [List.map_cons, List.mapM_cons, ih]
    rfl

@[simp]
theorem toFunction_tree (columns : List String) :
    toFunction argument (WrittenValue.selector columns).tree =
      .ok (WrittenValue.selector columns).tree :=
  rfl

theorem toDefault_double (value : Double) :
    toDefault argument value.tree = .ok (.double value.canonical) := by
  unfold Double.tree Double.canonical
  by_cases hnan : value.isNaN = true
  · rw [if_pos hnan, if_pos hnan]
    rfl
  rw [if_neg hnan, if_neg hnan]
  by_cases hinfinite : value.isInfinite = true
  · have hmagnitude : value.magnitude = Double.infiniteMagnitude := beq_iff_eq.mp hinfinite
    have hvalue := value.ofMagnitude_magnitude
    rw [hmagnitude] at hvalue
    rw [if_pos hinfinite]
    cases hnegative : value.isNegative with
    | false =>
      rw [hnegative] at hvalue
      rw [← hvalue]
      rfl
    | true =>
      rw [hnegative] at hvalue
      rw [← hvalue]
      rfl
  · rw [if_neg hinfinite]
    rfl

@[simp]
theorem toDefault_tree (value : DefaultValue) :
    toDefault argument (WrittenValue.constant value).tree = .ok value.canonical := by
  cases value with
  | double value => exact toDefault_double value
  | int value =>
    simp only [WrittenValue.tree, DefaultValue.tree, toDefault, integerDefault?, int32?_toInt]
    rfl
  | long value =>
    simp only [WrittenValue.tree, DefaultValue.tree, toDefault, integerDefault?, int64?_toInt]
    rfl
  | _ => rfl

end Expr

/-! ### Arguments -/

/-- Reads the value of an argument that may be left out. -/
def readOptional {α : Type} (convert : Conversion α) (name : String) :
    Option WrittenValue → Except ScriptError (Option α)
  | some value => (convert name value.tree).map some
  | none => .ok none

section Read

variable {name : String}

theorem readOptional_map {α β : Type} {convert : Conversion α} {write : β → WrittenValue}
    {read : β → α} (h : ∀ value, convert name (write value).tree = .ok (read value))
    (value : Option β) :
    readOptional convert name (value.map write) = .ok (value.map read) := by
  cases value with
  | none => rfl
  | some value =>
    rw [Option.map_some, readOptional, h]
    rfl

@[simp]
theorem readOptional_text (text : Option String) :
    readOptional Expr.toText name (text.map fun text => .constant (.string text)) = .ok text := by
  rw [readOptional_map Expr.toText_tree, Option.map_id']

@[simp]
theorem readOptional_int (value : Option Int32) :
    readOptional Expr.toInt name (value.map fun value => .constant (.int value)) = .ok value := by
  rw [readOptional_map Expr.toInt_tree, Option.map_id']

@[simp]
theorem readOptional_long (value : Option Int64) :
    readOptional Expr.toLong name (value.map fun value => .constant (.long value)) = .ok value := by
  rw [readOptional_map Expr.toLong_tree, Option.map_id']

@[simp]
theorem readOptional_default (value : Option DefaultValue) :
    readOptional Expr.toDefault name (value.map fun value => .constant value) =
      .ok (value.map (·.canonical)) :=
  readOptional_map Expr.toDefault_tree value

@[simp]
theorem readOptional_texts (texts : Option (List String)) :
    readOptional Expr.toTexts name (texts.map .strings) = .ok texts := by
  rw [readOptional_map Expr.toTexts_tree, Option.map_id']

@[simp]
theorem readOptional_bool (value : Bool) :
    readOptional Expr.toBool name (some (.constant (.bool value))) = .ok (some value) :=
  rfl

@[simp]
theorem readOptional_flag (value : Bool) :
    readOptional Expr.toBool name (if value then some (.constant (.bool true)) else none) =
      .ok (if value then some true else none) := by
  cases value <;> rfl

@[simp]
theorem readOptional_action (action : ReferentialAction) :
    readOptional Expr.toAction name (if action = .noAction then none else some (.action action)) =
      .ok (if action = .noAction then none else some action) := by
  split
  · rfl
  · rw [readOptional, Expr.toAction_tree]
    rfl

end Read

@[simp]
theorem getD_flag (value : Bool) : (if value then some true else none).getD false = value := by
  cases value <;> rfl

@[simp]
theorem getD_action (action : ReferentialAction) :
    (if action = .noAction then none else some action).getD .noAction = action := by
  split
  · exact Eq.symm ‹_›
  · rfl

namespace Bound

variable {call : Call} {arguments : List WrittenArgument} {name : String}

theorem optional_written {α : Type} {convert : Conversion α} :
    (written call arguments).optional convert name =
      readOptional convert name (valueOf arguments name) := by
  rw [optional, value?_written]
  cases valueOf arguments name <;> rfl

theorem required_written {α : Type} {convert : Conversion α} {value : WrittenValue}
    (h : valueOf arguments name = some value) :
    (written call arguments).required convert name = convert name value.tree := by
  rw [required, value?_written, h]
  rfl

/-- Columns are read as they are given, under one name or the other. -/
theorem columns_written {singular plural : String} {selected : List String}
    (hsingular : valueOf arguments singular =
      (single? selected).map fun column => .constant (.string column))
    (hplural : valueOf arguments plural = (several? selected).map .strings) :
    (written call arguments).columns singular plural = .ok selected := by
  have hexclusive : (written call arguments).exclusive singular plural = .ok () := by
    rw [exclusive, value?_written, value?_written, hsingular, hplural]
    match selected with
    | [] => rfl
    | [column] => rfl
    | first :: second :: rest => rfl
  rw [columns, hexclusive, optional_written, optional_written, hsingular, hplural,
    readOptional_text, readOptional_texts]
  match selected with
  | [] => rfl
  | [column] => rfl
  | first :: second :: rest => rfl

theorem requiredColumns_written {selected : List String}
    (hvalues : ∀ name ∈ ["column", "columns"], valueOf arguments name =
      valueOf (WrittenArgument.columns "column" "columns" selected) name)
    (hne : selected.isEmpty = false) :
    (written call arguments).requiredColumns "column" "columns" = .ok selected := by
  have hsingular := hvalues "column" (by simp)
  have hplural := hvalues "columns" (by simp)
  simp at hsingular hplural
  rw [requiredColumns, columns_written hsingular hplural]
  change (if selected.isEmpty then _ else _) = _
  rw [hne]
  rfl

/-! ### Operations -/

variable (call)

theorem columnOptions_written {column : Column} (base : Column)
    (hvalues : ∀ name ∈ ["nullable", "defaultValue", "defaultExpression"],
      valueOf arguments name = valueOf column.options name)
    (hdefaults : column.OneDefault) :
    (written call arguments).columnOptions base =
      .ok { base with
        isNullable := column.isNullable
        defaultValue := column.defaultValue.map (·.canonical)
        defaultExpression := column.defaultExpression } := by
  have hnullable := hvalues "nullable" (by simp)
  have hdefault := hvalues "defaultValue" (by simp)
  have hexpression := hvalues "defaultExpression" (by simp)
  simp [Column.options] at hnullable hdefault hexpression
  have hexclusive :
      (written call arguments).exclusive "defaultValue" "defaultExpression" = .ok () := by
    rw [exclusive, value?_written, value?_written, hdefault, hexpression]
    rw [Column.OneDefault] at hdefaults
    simp [hdefaults]
  simp [columnOptions, hexclusive, optional_written, hnullable, hdefault, hexpression, bind,
    Except.bind, pure, Except.pure]

theorem reference_written {key : ForeignKey} (base : ForeignKey)
    (hvalues : ∀ name ∈ ["referencedSchema", "referencedTable", "referencedColumn",
      "referencedColumns", "onUpdate", "onDelete"],
      valueOf arguments name = valueOf key.reference name) :
    (written call arguments).reference base =
      .ok { base with
        referencedSchema := key.referencedSchema
        referencedTable := key.referencedTable
        referencedColumns := key.referencedColumns
        onUpdate := key.onUpdate
        onDelete := key.onDelete } := by
  have hschema := hvalues "referencedSchema" (by simp)
  have htable := hvalues "referencedTable" (by simp)
  have hsingular := hvalues "referencedColumn" (by simp)
  have hplural := hvalues "referencedColumns" (by simp)
  have hupdate := hvalues "onUpdate" (by simp)
  have hdelete := hvalues "onDelete" (by simp)
  simp [ForeignKey.reference] at hschema htable hsingular hplural hupdate hdelete
  have hcolumns : (written call arguments).columns "referencedColumn" "referencedColumns" =
      .ok key.referencedColumns := columns_written hsingular hplural
  simp [reference, hcolumns, optional_written, required_written, hschema, htable, hupdate, hdelete,
    bind, Except.bind, pure, Except.pure]

theorem toColumn_written {column : Column}
    (hdefaults : column.OneDefault) :
    (written call (Operation.addColumn column).writtenArguments).toColumn column.schema =
      .ok column.canonical := by
  generalize harguments : (Operation.addColumn column).writtenArguments = arguments
  have hname : valueOf arguments "name" = some (.constant (.string column.name)) := by
    simp [← harguments]
  have htable : valueOf arguments "table" = some (.constant (.string column.table)) := by
    simp [← harguments]
  have htype : valueOf arguments "type" = some (.constant (.string column.type)) := by
    simp [← harguments]
  have hvalues : ∀ name ∈ ["nullable", "defaultValue", "defaultExpression"],
      valueOf arguments name = valueOf column.options name := by
    simp [← harguments, Column.options]
  rw [toColumn, required_written hname, required_written htable, required_written htype]
  exact columnOptions_written call _ hvalues hdefaults

theorem toForeignKey_written {key : ForeignKey} (hne : key.columns.isEmpty = false) :
    (written call (Operation.addForeignKey key).writtenArguments).toForeignKey key.schema =
      .ok key := by
  generalize harguments : (Operation.addForeignKey key).writtenArguments = arguments
  have hcolumns : (written call arguments).requiredColumns "column" "columns" =
      .ok key.columns := by
    refine requiredColumns_written ?_ hne
    simp [← harguments, ForeignKey.reference]
  have hname : valueOf arguments "name" = some (.constant (.string key.name)) := by
    simp [← harguments]
  have htable : valueOf arguments "table" = some (.constant (.string key.table)) := by
    simp [← harguments]
  have hvalues : ∀ name ∈ ["referencedSchema", "referencedTable", "referencedColumn",
      "referencedColumns", "onUpdate", "onDelete"],
      valueOf arguments name = valueOf key.reference name := by
    simp [← harguments, ForeignKey.reference]
  rw [toForeignKey, required_written hname, required_written htable, hcolumns]
  exact reference_written call _ hvalues

theorem toKey_written {key : Key} (hne : key.columns.isEmpty = false) :
    (written call (Operation.addPrimaryKey key).writtenArguments).toKey key.schema = .ok key := by
  generalize harguments : (Operation.addPrimaryKey key).writtenArguments = arguments
  have hcolumns : (written call arguments).requiredColumns "column" "columns" =
      .ok key.columns := by
    refine requiredColumns_written ?_ hne
    simp [← harguments]
  have hname : valueOf arguments "name" = some (.constant (.string key.name)) := by
    simp [← harguments]
  have htable : valueOf arguments "table" = some (.constant (.string key.table)) := by
    simp [← harguments]
  rw [toKey, required_written hname, required_written htable, hcolumns]
  rfl

theorem toIndex_written {index : Index} (hne : index.columns.isEmpty = false) :
    (written call (Operation.createIndex index).writtenArguments).toIndex index.schema =
      .ok index := by
  generalize harguments : (Operation.createIndex index).writtenArguments = arguments
  have hcolumns : (written call arguments).requiredColumns "column" "columns" =
      .ok index.columns := by
    refine requiredColumns_written ?_ hne
    simp [← harguments]
  have hname : valueOf arguments "name" = some (.constant (.string index.name)) := by
    simp [← harguments]
  have htable : valueOf arguments "table" = some (.constant (.string index.table)) := by
    simp [← harguments]
  have hunique : (written call arguments).optional Expr.toBool "unique" =
      .ok (if index.isUnique then some true else none) := by
    simp [← harguments, optional_written]
  rw [toIndex, toKey, required_written hname, required_written htable, hcolumns, hunique]
  exact congrArg (fun isUnique => Except.ok { index with isUnique }) (getD_flag index.isUnique)

theorem toSequenceChange_written (change : SequenceChange) :
    (written call (Operation.alterSequence change).writtenArguments).toSequenceChange
      change.schema = .ok change := by
  simp [toSequenceChange, optional_written, required_written, bind,
    Except.bind, pure, Except.pure]

theorem toSequence_written (sequence : Sequence) :
    (written call (Operation.createSequence sequence).writtenArguments).toSequence
      sequence.schema = .ok sequence := by
  simp [toSequence, optional_written, required_written, bind,
    Except.bind, pure, Except.pure]

theorem toTableMember_written (member : TableMember) :
    (written call (Operation.dropColumn member).writtenArguments).toTableMember member.schema =
      .ok member := by
  simp [toTableMember, required_written, bind, Except.bind, pure,
    Except.pure]

theorem toSchemaObject_written (object : SchemaObject) :
    (written call (Operation.dropTable object).writtenArguments).toSchemaObject object.schema =
      .ok object := by
  simp [toSchemaObject, required_written, bind, Except.bind, pure,
    Except.pure]

theorem toSchemaName_written (schema : SchemaName) :
    (written call (Operation.createSchema schema).writtenArguments).toSchemaName = .ok schema := by
  simp [toSchemaName, required_written, bind, Except.bind, pure,
    Except.pure]

theorem toMemberRename_written (rename : MemberRename) :
    (written call (Operation.renameColumn rename).writtenArguments).toMemberRename rename.schema =
      .ok rename := by
  simp [toMemberRename, required_written, bind, Except.bind, pure,
    Except.pure]

theorem toObjectRename_written (rename : ObjectRename) :
    (written call (Operation.renameTable rename).writtenArguments).toObjectRename rename.schema =
      .ok rename := by
  simp [toObjectRename, optional_written, required_written, bind,
    Except.bind, pure, Except.pure]

theorem toSequenceRestart_written (restart : SequenceRestart) :
    (written call (Operation.restartSequence restart).writtenArguments).toSequenceRestart
      restart.schema = .ok restart := by
  simp [toSequenceRestart, required_written, bind, Except.bind, pure,
    Except.pure]

theorem toSqlText_written (statement : SqlText) :
    (written call (Operation.sql statement).writtenArguments).toSqlText = .ok statement := by
  simp [toSqlText, optional_written, required_written, bind,
    Except.bind, pure, Except.pure]

end Bound

/-! ### Operations without faults -/

namespace Operation

/-- The schema that an operation is written with. -/
def writtenSchema : Operation → Option String
  | .addColumn column | .alterColumn column => column.schema
  | .addForeignKey key => key.schema
  | .addPrimaryKey key | .addUniqueConstraint key => key.schema
  | .alterSequence change => change.schema
  | .createIndex index => index.schema
  | .createSchema _ | .dropSchema _ | .createTable _ | .sql _ => none
  | .createSequence sequence => sequence.schema
  | .dropColumn member | .dropForeignKey member | .dropIndex member | .dropPrimaryKey member
  | .dropUniqueConstraint member => member.schema
  | .dropSequence object | .dropTable object => object.schema
  | .renameColumn rename | .renameIndex rename => rename.schema
  | .renameSequence rename | .renameTable rename => rename.schema
  | .restartSequence restart => restart.schema

theorem optional_schema {call : Call} (operation : Operation) :
    (Bound.written call operation.writtenArguments).optional Expr.toText "schema" =
      .ok operation.writtenSchema := by
  have hschema : valueOf operation.writtenArguments "schema" =
      operation.writtenSchema.map fun text => .constant (.string text) := by
    cases operation <;>
      simp [writtenSchema, Column.options, ForeignKey.reference]
  rw [Bound.optional_written, hschema, readOptional_text]

/-- An operation that can be written is read back from its arguments. -/
theorem toOperation_written {call : Call} {operation : Operation}
    (htable : operation.kind ≠ .createTable) (hfault : operation.fault? = none) :
    (Bound.written call operation.writtenArguments).toOperation operation.kind =
      .ok operation.canonical := by
  have hfaults := fault?_eq_none_iff.mp hfault
  rw [Bound.toOperation, optional_schema, ok_bind]
  cases operation with
  | createTable table => exact absurd rfl htable
  | addColumn column =>
    have hdefaults := Column.oneDefault_of_faults fun fault hmem =>
      hfaults fault (List.mem_cons_of_mem _ (List.mem_cons_of_mem _ hmem))
    exact return_eq_ok addColumn (Bound.toColumn_written call hdefaults)
  | alterColumn column =>
    have hdefaults := Column.oneDefault_of_faults fun fault hmem =>
      hfaults fault (List.mem_cons_of_mem _ (List.mem_cons_of_mem _ hmem))
    exact return_eq_ok alterColumn (Bound.toColumn_written call hdefaults)
  | addForeignKey key =>
    have hne := Fault.ifNoColumns_eq_none_iff.mp (hfaults _ (List.mem_of_getElem? (i := 3) rfl))
    exact return_eq_ok addForeignKey (Bound.toForeignKey_written call hne)
  | addPrimaryKey key =>
    have hne := Fault.ifNoColumns_eq_none_iff.mp (hfaults _ (List.mem_of_getElem? (i := 3) rfl))
    exact return_eq_ok addPrimaryKey (Bound.toKey_written call hne)
  | addUniqueConstraint key =>
    have hne := Fault.ifNoColumns_eq_none_iff.mp (hfaults _ (List.mem_of_getElem? (i := 3) rfl))
    exact return_eq_ok addUniqueConstraint (Bound.toKey_written call hne)
  | createIndex index =>
    have hne := Fault.ifNoColumns_eq_none_iff.mp (hfaults _ (List.mem_of_getElem? (i := 3) rfl))
    exact return_eq_ok createIndex (Bound.toIndex_written call hne)
  | alterSequence change =>
    exact return_eq_ok alterSequence (Bound.toSequenceChange_written call change)
  | createSequence sequence =>
    exact return_eq_ok createSequence (Bound.toSequence_written call sequence)
  | createSchema schema =>
    exact return_eq_ok createSchema (Bound.toSchemaName_written call schema)
  | dropSchema schema =>
    exact return_eq_ok dropSchema (Bound.toSchemaName_written call schema)
  | dropColumn member =>
    exact return_eq_ok dropColumn (Bound.toTableMember_written call member)
  | dropForeignKey member =>
    exact return_eq_ok dropForeignKey (Bound.toTableMember_written call member)
  | dropIndex member =>
    exact return_eq_ok dropIndex (Bound.toTableMember_written call member)
  | dropPrimaryKey member =>
    exact return_eq_ok dropPrimaryKey (Bound.toTableMember_written call member)
  | dropUniqueConstraint member =>
    exact return_eq_ok dropUniqueConstraint (Bound.toTableMember_written call member)
  | dropSequence object =>
    exact return_eq_ok dropSequence (Bound.toSchemaObject_written call object)
  | dropTable object =>
    exact return_eq_ok dropTable (Bound.toSchemaObject_written call object)
  | renameColumn rename =>
    exact return_eq_ok renameColumn (Bound.toMemberRename_written call rename)
  | renameIndex rename =>
    exact return_eq_ok renameIndex (Bound.toMemberRename_written call rename)
  | renameSequence rename =>
    exact return_eq_ok renameSequence (Bound.toObjectRename_written call rename)
  | renameTable rename =>
    exact return_eq_ok renameTable (Bound.toObjectRename_written call rename)
  | restartSequence restart =>
    exact return_eq_ok restartSequence (Bound.toSequenceRestart_written call restart)
  | sql statement =>
    exact return_eq_ok sql (Bound.toSqlText_written call statement)

theorem operation_tree_of_ne {builder : String} {operation : Operation}
    (htable : operation.kind ≠ .createTable) (hfault : operation.fault? = none) :
    (operation.tree builder).operation builder = .ok operation.canonical := by
  obtain ⟨parameter, parameters, value, rest, hparameters, hwritten⟩ :=
    exists_writtenArguments htable
  have hfirst : (operation.writtenArguments.map (·.name)).head? =
      (operation.kind.parameters.map (·.name)).head? := by
    rw [hparameters, hwritten]
    rfl
  have htree : operation.tree builder = ⟨builder, operation.kind.method,
      trees operation.kind.shape.naming operation.writtenArguments, default⟩ :=
    tree_eq_trees htable
  generalize operation.tree builder = call at htree
  have hbound : Bound.ofCall call operation.kind.parameters =
      .ok (.written call operation.writtenArguments) :=
    Bound.ofCall_written (by rw [htree]) (fits_parameters htable) operation.kind.nodup_parameters
      (.inr hfirst)
  rw [Call.operation_of_ofCall (by rw [htree]) (by rw [htree]) hbound]
  exact toOperation_written htable hfault

end Operation

end MigrationScript
