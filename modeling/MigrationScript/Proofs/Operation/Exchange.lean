import MigrationScript.Operation.Json
import MigrationScript.Proofs.Json.Derived
import MigrationScript.Proofs.Json.Exchange
import MigrationScript.Proofs.Json.Writer

/-!
# Operations written as JSON and read back

Whatever library makes the codecs and whatever library writes the texts: if these do what is
documented, operations come back as they are, or they are refused since the text has no number for a
double in them.
-/

namespace MigrationScript

def DefaultValue.doubles : DefaultValue → List Double
  | .double value => [value]
  | _ => []

def Column.doubles (column : Column) : List Double :=
  column.defaultValue.toList.flatMap (·.doubles)

/-- The doubles in the defaults of columns. -/
def Operation.doubles : Operation → List Double
  | .addColumn column | .alterColumn column => column.doubles
  | .createTable table => table.columns.flatMap (·.doubles)
  | _ => []

/-- No operation has a field with the name of the member that tells the kind. -/
theorem Derive.unknown_kind (derive : Derive) (kind : Kind) :
    (derive.fields kind).Unknown "kind" := by
  cases kind <;>
    simp [Record.Unknown, fields, column, foreignKey, key, sequenceChange, index, schemaName,
      sequence, table, tableMember, schemaObject, memberRename, objectRename, sequenceRestart,
      sqlText]

namespace Derive.Laws

variable {derive : Derive} (laws : derive.Laws) {depth : Nat}

include laws

/-! ### Values -/

@[simp]
theorem exchanges_string : derive.string.Exchanges depth fun _ => [] :=
  laws.string.exchanges_string

@[simp]
theorem exchanges_bool : derive.bool.Exchanges depth fun _ => [] :=
  laws.bool.exchanges_bool

@[simp]
theorem exchanges_int32 : derive.int32.Exchanges depth fun _ => [] := by
  refine laws.int32.exchanges fun value => ?_
  have hlow := value.le_toInt
  have hhigh := value.toInt_lt
  exact ⟨by omega, by omega⟩

@[simp]
theorem exchanges_int64 : derive.int64.Exchanges depth fun _ => [] := by
  refine laws.int64.exchanges fun value => ?_
  have hlow := value.le_toInt
  have hhigh := value.toInt_lt
  exact ⟨by omega, by omega⟩

@[simp]
theorem exchanges_action : derive.action.Exchanges depth fun _ => [] :=
  (laws.units ReferentialAction.units).exchanges

theorem exchanges_defaultValue :
    derive.defaultValue.Exchanges (depth + 1) DefaultValue.doubles := by
  refine (laws.external derive.defaultVariants).exchanges fun form => ?_
  cases form with
  | bool => exact laws.exchanges_bool
  | int => exact laws.exchanges_int32
  | long => exact laws.exchanges_int64
  | double => exact laws.double.exchanges_double
  | string => exact laws.exchanges_string

@[simp]
theorem exchanges_strings : derive.strings.Exchanges (depth + 1) fun _ => [] :=
  (laws.list derive.string).exchanges_nil laws.exchanges_string

@[simp]
theorem exchanges_optionalString : derive.optionalString.Exchanges depth fun _ => [] := by
  refine (laws.option derive.string).exchanges_nil laws.exchanges_string fun value => ?_
  rw [laws.string.encode, Json.asWritten]
  exact Json.noConfusion

@[simp]
theorem exchanges_optionalInt32 : derive.optionalInt32.Exchanges depth fun _ => [] := by
  refine (laws.option derive.int32).exchanges_nil laws.exchanges_int32 fun value => ?_
  rw [laws.int32.encode, Json.asWritten]
  exact Json.noConfusion

@[simp]
theorem exchanges_optionalInt64 : derive.optionalInt64.Exchanges depth fun _ => [] := by
  refine (laws.option derive.int64).exchanges_nil laws.exchanges_int64 fun value => ?_
  rw [laws.int64.encode, Json.asWritten]
  exact Json.noConfusion

/-! ### Records -/

theorem exchanges_key : derive.key.Exchanges (depth + 1) fun _ => [] :=
  Record.exchanges_of_forall (List.cons_ne_nil _ _) (by simp [key, laws])

theorem exchanges_foreignKey : derive.foreignKey.Exchanges (depth + 1) fun _ => [] :=
  Record.exchanges_of_forall (List.cons_ne_nil _ _) (by simp [foreignKey, laws])

theorem exchanges_index : derive.index.Exchanges (depth + 1) fun _ => [] :=
  Record.exchanges_of_forall (List.cons_ne_nil _ _) (by simp [index, laws])

theorem exchanges_sequenceChange : derive.sequenceChange.Exchanges depth fun _ => [] :=
  Record.exchanges_of_forall (List.cons_ne_nil _ _) (by simp [sequenceChange, laws])

theorem exchanges_sequence : derive.sequence.Exchanges depth fun _ => [] :=
  Record.exchanges_of_forall (List.cons_ne_nil _ _) (by simp [sequence, laws])

theorem exchanges_tableMember : derive.tableMember.Exchanges depth fun _ => [] :=
  Record.exchanges_of_forall (List.cons_ne_nil _ _) (by simp [tableMember, laws])

theorem exchanges_schemaObject : derive.schemaObject.Exchanges depth fun _ => [] :=
  Record.exchanges_of_forall (List.cons_ne_nil _ _) (by simp [schemaObject, laws])

theorem exchanges_schemaName : derive.schemaName.Exchanges depth fun _ => [] :=
  Record.exchanges_of_forall (List.cons_ne_nil _ _) (by simp [schemaName, laws])

theorem exchanges_memberRename : derive.memberRename.Exchanges depth fun _ => [] :=
  Record.exchanges_of_forall (List.cons_ne_nil _ _) (by simp [memberRename, laws])

theorem exchanges_objectRename : derive.objectRename.Exchanges depth fun _ => [] :=
  Record.exchanges_of_forall (List.cons_ne_nil _ _) (by simp [objectRename, laws])

theorem exchanges_sequenceRestart : derive.sequenceRestart.Exchanges depth fun _ => [] :=
  Record.exchanges_of_forall (List.cons_ne_nil _ _) (by simp [sequenceRestart, laws])

theorem exchanges_sqlText : derive.sqlText.Exchanges depth fun _ => [] :=
  Record.exchanges_of_forall (List.cons_ne_nil _ _) (by simp [sqlText, laws])

theorem exchanges_column : derive.column.Exchanges (depth + 1) Column.doubles := by
  have hdefault : (derive.option derive.defaultValue).Exchanges (depth + 1)
      fun value => value.toList.flatMap (·.doubles) := by
    refine (laws.option derive.defaultValue).exchanges laws.exchanges_defaultValue fun value => ?_
    rw [← derive.defaultVariants.wrap_split value, defaultValue,
      (laws.external derive.defaultVariants).encode, Json.asWritten]
    exact Json.noConfusion
  have hlength : 5 < derive.column.fields.length := by simp [column]
  have hfield : derive.column.fields[5].Exchanges (depth + 1) Column.doubles :=
    @Codec.Exchanges.field _ _ derive.column.fields[5] _ hdefault
  constructor
  · simp only [column, List.forall_mem_cons]
    exact ⟨.inl laws.exchanges_string, .inl laws.exchanges_optionalString,
      .inl laws.exchanges_string, .inl laws.exchanges_string, .inl laws.exchanges_bool,
      .inr hfield, .inl laws.exchanges_optionalString, List.forall_mem_nil _⟩
  · exact ⟨_, List.getElem_mem hlength, hfield⟩

theorem exchanges_table :
    derive.table.Exchanges (depth + 3) fun table => table.columns.flatMap (·.doubles) := by
  have hcolumn : (derive.record derive.column).Exchanges (depth + 2) Column.doubles :=
    (laws.record derive.column).exchanges laws.exchanges_column
  have hlength : 2 < derive.table.fields.length := by simp [table]
  have hfield : derive.table.fields[2].Exchanges (depth + 3)
      fun table => table.columns.flatMap (·.doubles) :=
    Codec.Exchanges.field ((laws.list _).exchanges hcolumn)
  have hkey {depth : Nat} : (derive.record derive.key).Exchanges (depth + 2) fun _ => [] :=
    (laws.record derive.key).exchanges laws.exchanges_key
  have hforeign : (derive.record derive.foreignKey).Exchanges (depth + 2) fun _ => [] :=
    (laws.record derive.foreignKey).exchanges laws.exchanges_foreignKey
  constructor
  · simp only [table, List.forall_mem_cons]
    refine ⟨.inl laws.exchanges_string, .inl laws.exchanges_optionalString, .inr hfield,
      .inl ((laws.option _).exchanges_nil hkey fun key => ?_),
      .inl ((laws.list _).exchanges_nil hforeign), .inl ((laws.list _).exchanges_nil hkey),
      List.forall_mem_nil _⟩
    rw [(laws.record derive.key).encode, Json.asWritten]
    exact Json.noConfusion
  · exact ⟨_, List.getElem_mem hlength, hfield⟩

/-! ### Operations -/

theorem exchanges_fields (kind : Kind) : (derive.fields kind).Exchanges (depth + 3)
    fun fields => (Operation.ofFields kind fields).doubles := by
  cases kind with
  | addColumn | alterColumn => exact laws.exchanges_column
  | addForeignKey => exact laws.exchanges_foreignKey
  | addPrimaryKey | addUniqueConstraint => exact laws.exchanges_key
  | alterSequence => exact laws.exchanges_sequenceChange
  | createIndex => exact laws.exchanges_index
  | createSchema | dropSchema => exact laws.exchanges_schemaName
  | createSequence => exact laws.exchanges_sequence
  | createTable => exact laws.exchanges_table
  | dropColumn | dropForeignKey | dropIndex | dropPrimaryKey | dropUniqueConstraint =>
    exact laws.exchanges_tableMember
  | dropSequence | dropTable => exact laws.exchanges_schemaObject
  | renameColumn | renameIndex => exact laws.exchanges_memberRename
  | renameSequence | renameTable => exact laws.exchanges_objectRename
  | restartSequence => exact laws.exchanges_sequenceRestart
  | sql => exact laws.exchanges_sqlText

theorem exchanges_operation : derive.operation.Exchanges (depth + 4) Operation.doubles := by
  refine (laws.internal "kind" derive.operationVariants).exchanges ?_ fun kind => ?_
  · intro kind fields
    refine ⟨_, (laws.record (derive.fields kind)).encode fields, ?_⟩
    exact Record.occurrences_map_of_unknown (derive.unknown_kind kind) _
  · exact (laws.record (derive.fields kind)).exchanges (laws.exchanges_fields kind)

end Derive.Laws

/-- Operations that are written and read back come back field for field if all doubles in them are
finite, and are refused otherwise. Of the library that writes the texts it is asked that it reads
back the finite doubles of these operations as it writes them. -/
theorem read_write_operations (derive : Derive) (laws : derive.Laws) (format : TextFormat)
    (hformat : format.Laws) (operations : List Operation)
    (hdoubles : ∀ x ∈ operations.flatMap (·.doubles), x.isFinite = true → format.ReadsBack x) :
    format.read (derive.list derive.operation)
        (format.write (derive.list derive.operation) operations) =
      if (operations.flatMap (·.doubles)).all (·.isFinite) then some operations else none := by
  -- The deepest is a default: in a column, the columns, an operation and the list of operations.
  have h : (derive.list derive.operation).Exchanges Json.maxDepth
      fun operations => operations.flatMap (·.doubles) :=
    (laws.list derive.operation).exchanges (@laws.exchanges_operation derive 122)
  rw [hformat.read_write (h.fits format.ReadsBack operations hdoubles), h.decode_asWritten]

/-- A negative zero comes back with its sign. With a default that is not a number beside it, nothing
is read. -/
theorem read_write_operations_negativeZero :
    let column (value : Double) : Operation :=
      .addColumn { name := "a", table := "t", type := "real", defaultValue := some (.double value) }
    let negativeZero : Double := ⟨0x8000000000000000⟩
    readOperations? (writeOperations [column negativeZero]) = some [column negativeZero] ∧
      readOperations? (writeOperations [column negativeZero, column .nan]) = none := by
  intro column negativeZero
  have h (operations : List Operation) := read_write_operations Derive.standard
    Derive.laws_standard TextFormat.standard TextFormat.laws_standard operations
    fun x _ hfinite => Double.readsBack_standard hfinite
  constructor
  · have hfinite : ([column negativeZero].flatMap (·.doubles)).all (·.isFinite) = true := by decide
    exact (h [column negativeZero]).trans (if_pos hfinite)
  · have hinfinite : ¬([column negativeZero, column .nan].flatMap (·.doubles)).all
        (·.isFinite) = true := by decide
    exact (h [column negativeZero, column .nan]).trans (if_neg hinfinite)

end MigrationScript
