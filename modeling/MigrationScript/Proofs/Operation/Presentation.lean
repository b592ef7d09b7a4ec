import MigrationScript.Proofs.Json.Presentation
import MigrationScript.Proofs.Operation.Exchange

/-!
# Presentation of operations

Whatever library makes the codecs: the order of the members, defaults and unknown members do not
change which operation is read, at the top and in the columns and constraints of a table. A member
that is repeated or has a value that its field does not take is never passed over.
-/

namespace MigrationScript

/-! ### Values that fields do not take -/

/-- The widths that integers are stored in. -/
inductive Width
  | bits32
  | bits64
  deriving DecidableEq

/-- The least positive integer that is too large. -/
def Width.limit : Width → Int
  | .bits32 => 2147483648
  | .bits64 => 9223372036854775808

/-- The fields that take integers, with the width of these. -/
def integerFields : List (String × Width) :=
  [("incrementBy", .bits32), ("startWith", .bits64), ("minValue", .bits64), ("maxValue", .bits64),
    ("restartWith", .bits64)]

/-- Numbers that are no integers of the width. -/
inductive OutOfWidth (width : Width) : Json → Prop
  | integer {value : Int} (h : value < -width.limit ∨ width.limit ≤ value) :
    OutOfWidth width (.integer value)
  | real (value : Double) : OutOfWidth width (.real value)

/-- Values that a field of the name does not take: numbers out of its width, and defaults without
exactly one member or with an integer out of the width that this member names. -/
inductive Misfit (name : String) : Json → Prop
  | number {width : Width} {json : Json} (hwidth : integerFields.lookup name = some width)
    (h : OutOfWidth width json) : Misfit name json
  | members {members : List (String × Json)} (hname : name = "defaultValue")
    (h : members.length ≠ 1) : Misfit name (.object members)
  | int {json : Json} (hname : name = "defaultValue") (h : OutOfWidth .bits32 json) :
    Misfit name (.object [("int", json)])
  | long {json : Json} (hname : name = "defaultValue") (h : OutOfWidth .bits64 json) :
    Misfit name (.object [("long", json)])

/-- Fields of other names take neither numbers nor defaults. -/
def Plain (name : String) : Prop :=
  integerFields.lookup name = none ∧ name ≠ "defaultValue"

instance (name : String) : Decidable (Plain name) :=
  inferInstanceAs (Decidable (_ ∧ _))

section Misfit

variable {name : String} {json : Json}

theorem Plain.not_misfit (hname : Plain name) : ¬ Misfit name json := by
  obtain ⟨hwidth, hdefault⟩ := hname
  rintro (⟨hwidth', -⟩ | ⟨h, -⟩ | ⟨h, -⟩ | ⟨h, -⟩)
  · rw [hwidth] at hwidth'
    cases hwidth'
  all_goals exact hdefault h

theorem Misfit.ne_null (h : Misfit name json) : json ≠ .null := by
  rintro rfl
  cases h with
  | number _ h => cases h

/-- What does not fit a field of integers is a number out of its width. -/
theorem Misfit.outOfWidth {width : Width} (hwidth : integerFields.lookup name = some width)
    (h : Misfit name json) : OutOfWidth width json := by
  have hdefault (hname : name = "defaultValue") : False := by
    subst hname
    cases hwidth
  cases h with
  | number hwidth' h => rwa [Option.some.inj (hwidth.symm.trans hwidth')]
  | members hname _ | int hname _ | long hname _ => exact (hdefault hname).elim

end Misfit

/-- A codec for a field of the name: null is refused unless it stands for the default, and so are
the values that do not fit. -/
structure Codec.Guards {α : Type} (codec : Codec α) (name : String) (initial : α) : Prop where
  null : codec.encode initial ≠ .null → codec.decode .null = none
  misfit : ∀ json, Misfit name json → codec.decode json = none

section Guards

variable {α : Type} {codec : Codec α} {name : String}

theorem guards_required {initial : α} (hnull : codec.decode .null = none) (hname : Plain name) :
    codec.Guards name initial where
  null _ := hnull
  misfit _ h := absurd h hname.not_misfit

theorem Codec.IsOption.guards {inner : Codec α} {codec : Codec (Option α)}
    (hoption : codec.IsOption inner) (h : ∀ json, Misfit name json → inner.decode json = none) :
    codec.Guards name none where
  null hne := absurd hoption.encode_none hne
  misfit json hmisfit := by
    rw [hoption.decode json hmisfit.ne_null, h json hmisfit]
    rfl

end Guards

namespace Derive.Laws

variable {derive : Derive} (laws : derive.Laws) {name : String} {json : Json}

include laws

theorem decode_int32_eq_none (h : OutOfWidth .bits32 json) : derive.int32.decode json = none := by
  cases h with
  | real number => exact laws.int32.real number
  | integer h =>
    refine Option.eq_none_iff_forall_ne_some.mpr fun word hword => ?_
    have hvalue := laws.int32.decode.mp hword
    have hlow := word.le_toInt
    have hhigh := word.toInt_lt
    rw [Width.limit] at h
    omega

theorem decode_int64_eq_none (h : OutOfWidth .bits64 json) : derive.int64.decode json = none := by
  cases h with
  | real number => exact laws.int64.real number
  | integer h =>
    refine Option.eq_none_iff_forall_ne_some.mpr fun word hword => ?_
    have hvalue := laws.int64.decode.mp hword
    have hlow := word.le_toInt
    have hhigh := word.toInt_lt
    rw [Width.limit] at h
    omega

theorem decode_defaultValue_eq_none (h : Misfit "defaultValue" json) :
    derive.defaultValue.decode json = none := by
  have hexternal := laws.external derive.defaultVariants
  cases h with
  | number hwidth' h => cases hwidth'
  | members _ h => exact hexternal.single _ h
  | int _ h =>
    exact (hexternal.decode .int _).trans (congrArg (Option.map _) (laws.decode_int32_eq_none h))
  | long _ h =>
    exact (hexternal.decode .long _).trans (congrArg (Option.map _) (laws.decode_int64_eq_none h))

@[simp]
theorem guards_string {initial : String} (hname : Plain name) :
    derive.string.Guards name initial :=
  guards_required laws.string.null hname

@[simp]
theorem guards_bool {initial : Bool} (hname : Plain name) : derive.bool.Guards name initial :=
  guards_required laws.bool.null hname

@[simp]
theorem guards_int64 {initial : Int64} (hwidth : integerFields.lookup name = some .bits64) :
    derive.int64.Guards name initial where
  null _ := laws.int64.null
  misfit _ h := laws.decode_int64_eq_none (h.outOfWidth hwidth)

@[simp]
theorem guards_list {α : Type} {inner : Codec α} {initial : List α} (hname : Plain name) :
    (derive.list inner).Guards name initial :=
  guards_required (laws.list inner).null hname

@[simp]
theorem guards_strings {initial : List String} (hname : Plain name) :
    derive.strings.Guards name initial :=
  laws.guards_list hname

@[simp]
theorem guards_action {initial : ReferentialAction} (hname : Plain name) :
    derive.action.Guards name initial :=
  guards_required (laws.units ReferentialAction.units).null hname

@[simp]
theorem guards_option {α : Type} {inner : Codec α} (hname : Plain name) :
    (derive.option inner).Guards name none :=
  (laws.option inner).guards fun _ h => absurd h hname.not_misfit

@[simp]
theorem guards_optionalString (hname : Plain name) : derive.optionalString.Guards name none :=
  laws.guards_option hname

@[simp]
theorem guards_optionalInt32 (hwidth : integerFields.lookup name = some .bits32) :
    derive.optionalInt32.Guards name none :=
  (laws.option derive.int32).guards fun _ h => laws.decode_int32_eq_none (h.outOfWidth hwidth)

@[simp]
theorem guards_optionalInt64 (hwidth : integerFields.lookup name = some .bits64) :
    derive.optionalInt64.Guards name none :=
  (laws.option derive.int64).guards fun _ h => laws.decode_int64_eq_none (h.outOfWidth hwidth)

@[simp]
theorem guards_defaultValue :
    (derive.option derive.defaultValue).Guards "defaultValue" none :=
  (laws.option derive.defaultValue).guards fun _ h => laws.decode_defaultValue_eq_none h

end Derive.Laws

/-! ### Records -/

namespace Record

variable {σ : Type} {record : Record σ} {members : List (String × Json)} {value : σ}

/-- What makes an object unreadable: a field that is given twice, a null for a field that is not
optional, or a value that does not fit its field. -/
inductive Flawed (record : Record σ) (members : List (String × Json)) : Prop
  | repeated {field : Field σ} (hfield : field ∈ record.fields)
    (h : 1 < Json.occurrences field.name members)
  | null {field : Field σ} (hfield : field ∈ record.fields)
    (hrequired : field.codec.encode (field.get record.initial) ≠ .null)
    (hmem : (field.name, .null) ∈ members)
  | misfit {field : Field σ} {json : Json} (hfield : field ∈ record.fields)
    (h : Misfit field.name json) (hmem : (field.name, json) ∈ members)

/-- Each field is guarded. -/
def Guarded (record : Record σ) : Prop :=
  ∀ field ∈ record.fields, field.codec.Guards field.name (field.get record.initial)

theorem Guarded.not_reads (hguarded : record.Guarded) (h : record.Flawed members) :
    ¬record.Reads members value := by
  cases h with
  | repeated hfield h => exact not_reads_of_repeated hfield h
  | null hfield hrequired hmem =>
    exact not_reads_of_refused hfield hmem ((hguarded _ hfield).null hrequired)
  | misfit hfield h hmem =>
    exact not_reads_of_refused hfield hmem ((hguarded _ hfield).misfit _ h)

end Record

namespace Derive.Laws

variable {derive : Derive} (laws : derive.Laws)

include laws

theorem guarded_column : derive.column.Guarded := by
  simp +decide [Record.Guarded, column, laws]

theorem guarded_key : derive.key.Guarded := by
  simp +decide [Record.Guarded, key, laws]

theorem guarded_foreignKey : derive.foreignKey.Guarded := by
  simp +decide [Record.Guarded, foreignKey, laws]

theorem guarded_fields (kind : Kind) : (derive.fields kind).Guarded := by
  cases kind with
  | addColumn | alterColumn => exact laws.guarded_column
  | addForeignKey => exact laws.guarded_foreignKey
  | addPrimaryKey | addUniqueConstraint => exact laws.guarded_key
  | alterSequence => simp +decide [Record.Guarded, fields, sequenceChange, laws]
  | createIndex => simp +decide [Record.Guarded, fields, index, laws]
  | createSchema | dropSchema => simp +decide [Record.Guarded, fields, schemaName, laws]
  | createSequence => simp +decide [Record.Guarded, fields, sequence, laws]
  | createTable => simp +decide [Record.Guarded, fields, table, laws]
  | dropColumn | dropForeignKey | dropIndex | dropPrimaryKey | dropUniqueConstraint =>
    simp +decide [Record.Guarded, fields, tableMember, laws]
  | dropSequence | dropTable => simp +decide [Record.Guarded, fields, schemaObject, laws]
  | renameColumn | renameIndex => simp +decide [Record.Guarded, fields, memberRename, laws]
  | renameSequence | renameTable => simp +decide [Record.Guarded, fields, objectRename, laws]
  | restartSequence => simp +decide [Record.Guarded, fields, sequenceRestart, laws]
  | sql => simp +decide [Record.Guarded, fields, sqlText, laws]

end Derive.Laws

/-! ### Objects in a table -/

/-- The places in the object of a table where there is an object of a record: what stands around
it. -/
inductive Table.Place (derive : Derive) : {σ : Type} → Record σ →
    (List (String × Json) → List (String × Json)) → Prop
  | column (front back : List (String × Json)) (before after : List Json) :
    Place derive derive.column fun part =>
      front ++ ("columns", .array (before ++ .object part :: after)) :: back
  | primaryKey (front back : List (String × Json)) :
    Place derive derive.key fun part => front ++ ("primaryKey", .object part) :: back
  | foreignKey (front back : List (String × Json)) (before after : List Json) :
    Place derive derive.foreignKey fun part =>
      front ++ ("foreignKeys", .array (before ++ .object part :: after)) :: back
  | uniqueConstraint (front back : List (String × Json)) (before after : List Json) :
    Place derive derive.key fun part =>
      front ++ ("uniqueConstraints", .array (before ++ .object part :: after)) :: back

namespace Table.Place

variable {derive : Derive} (laws : derive.Laws) {σ : Type} {record : Record σ}
  {place : List (String × Json) → List (String × Json)}

include laws

/-- A place is in the value of a field of the table. -/
theorem exists_field (h : Table.Place derive record place) :
    ∃ field ∈ derive.table.fields, ∃ value front back,
      (place = fun part => front ++ (field.name, value part) :: back) ∧
        field.codec.Holds (derive.record record) value := by
  have hlength : derive.table.fields.length = 6 := rfl
  have hmem (index : Nat) (hindex : index < derive.table.fields.length) :
      derive.table.fields[index] ∈ derive.table.fields := List.getElem_mem hindex
  cases h with
  | column front back before after =>
    exact ⟨_, hmem 2 (by omega), _, front, back, rfl, (laws.list _).holds before after⟩
  | primaryKey front back =>
    exact ⟨_, hmem 3 (by omega), _, front, back, rfl, (laws.option _).holds⟩
  | foreignKey front back before after =>
    exact ⟨_, hmem 4 (by omega), _, front, back, rfl, (laws.list _).holds before after⟩
  | uniqueConstraint front back before after =>
    exact ⟨_, hmem 5 (by omega), _, front, back, rfl, (laws.list _).holds before after⟩

theorem guarded (h : Table.Place derive record place) : record.Guarded := by
  cases h with
  | column => exact laws.guarded_column
  | foreignKey => exact laws.guarded_foreignKey
  | primaryKey | uniqueConstraint => exact laws.guarded_key

theorem reads (h : Table.Place derive record place) {first second : List (String × Json)}
    (hpart : ∀ value, record.Reads first value → record.Reads second value) {table : Table}
    (hfirst : derive.table.Reads (place first) table) :
    derive.table.Reads (place second) table := by
  obtain ⟨field, hfield, value, front, back, rfl, hvalue⟩ := h.exists_field laws
  refine Record.reads_replace hfield (hvalue.keeps first second fun made => ?_) hfirst
  rw [(laws.record record).decode, (laws.record record).decode]
  exact hpart made

theorem not_reads (h : Table.Place derive record place) {part : List (String × Json)}
    (hpart : ∀ value, ¬record.Reads part value) {table : Table} :
    ¬derive.table.Reads (place part) table := by
  obtain ⟨field, hfield, value, front, back, rfl, hvalue⟩ := h.exists_field laws
  refine Record.not_reads_of_refused hfield List.mem_append_cons_self (hvalue.refuses part ?_)
  refine Option.eq_none_iff_forall_ne_some.mpr fun made hmade => ?_
  exact hpart made ((laws.record record).decode.mp hmade)

end Table.Place

namespace Operation

theorem kind_ofFields (kind : Kind) (fields : kind.Fields) :
    (ofFields kind fields).kind = kind := by
  cases kind <;> rfl

/-- An operation is read from an object that names its kind once and has its fields. -/
theorem decode_eq_some_iff {derive : Derive} (laws : derive.Laws) {members : List (String × Json)}
    {operation : Operation} :
    derive.operation.decode (.object members) = some operation ↔
      ∃ (kind : Kind) (fields : kind.Fields), Json.occurrences "kind" members = 1 ∧
        ("kind", .string kind.method) ∈ members ∧
        (derive.fields kind).Reads members fields ∧ ofFields kind fields = operation := by
  rw [Derive.operation, (laws.internal "kind" derive.operationVariants).decode]
  refine exists_congr fun kind => exists_congr fun fields => ?_
  have hfields : (derive.operationVariants.codec kind).decode
      (.object (members.filter fun member => member.1 ≠ "kind")) = some fields ↔
        (derive.fields kind).Reads members fields :=
    (laws.record (derive.fields kind)).decode.trans
      (Record.reads_filter_of_unknown (derive.unknown_kind kind))
  rw [hfields]
  rfl

/-! ### Presentation -/

/-- Changes of how an operation of a kind is written: at the top, where nothing is added that names
a kind, or in an object of a table. -/
inductive Restyled (derive : Derive) :
    Kind → List (String × Json) → List (String × Json) → Prop
  | top {kind : Kind} {first second : List (String × Json)}
    (h : (derive.fields kind).Restyled ["kind"] first second) : Restyled derive kind first second
  | part {σ : Type} {record : Record σ} {place : List (String × Json) → List (String × Json)}
    {first second : List (String × Json)} (hplace : Table.Place derive record place)
    (h : record.Restyled [] first second) :
    Restyled derive .createTable (place first) (place second)

/-- What makes an operation of a kind unreadable, at the top or in an object of a table. -/
inductive Flawed (derive : Derive) : Kind → List (String × Json) → Prop
  | top {kind : Kind} {members : List (String × Json)}
    (h : (derive.fields kind).Flawed members) : Flawed derive kind members
  | part {σ : Type} {record : Record σ} {place : List (String × Json) → List (String × Json)}
    {members : List (String × Json)} (hplace : Table.Place derive record place)
    (h : record.Flawed members) : Flawed derive .createTable (place members)

section Presentation

variable {derive : Derive} (laws : derive.Laws) {kind : Kind}
  {first second members : List (String × Json)}

include laws

theorem Restyled.sameUnder_kind (h : Restyled derive kind first second) :
    Json.SameUnder "kind" first second := by
  cases h with
  | top h =>
    cases h with
    | permuted h => exact Json.sameUnder_of_perm h "kind"
    | omitted front back hfield =>
      exact Json.sameUnder_middle ((derive.unknown_kind kind).ne hfield) front back
    | supplied front back hfield =>
      exact (Json.sameUnder_middle ((derive.unknown_kind kind).ne hfield) front back).symm
    | added json front back _ hfree =>
      exact (Json.sameUnder_middle (List.ne_of_not_mem_cons hfree) front back).symm
  | part hplace h =>
    obtain ⟨field, hfield, value, front, back, rfl, -⟩ := hplace.exists_field laws
    have hname : field.name ≠ "kind" := (derive.unknown_kind .createTable).ne hfield
    exact (Json.sameUnder_middle hname front back).trans
      (Json.sameUnder_middle hname front back).symm

theorem Restyled.reads_fields (h : Restyled derive kind first second) {fields : kind.Fields}
    (hfirst : (derive.fields kind).Reads first fields) :
    (derive.fields kind).Reads second fields := by
  cases h with
  | top h => exact h.reads hfirst
  | part hplace h => exact hplace.reads laws (fun _ => h.reads) hfirst

theorem Flawed.not_reads_fields (h : Flawed derive kind members) {fields : kind.Fields} :
    ¬(derive.fields kind).Reads members fields := by
  cases h with
  | top h => exact (laws.guarded_fields kind).not_reads h
  | part hplace h => exact hplace.not_reads laws fun _ => (hplace.guarded laws).not_reads h

end Presentation

/-- An object that is read as an operation is read as the same one after each change of its
presentation. An object that names its kind twice is not read, nor is one with a flaw. -/
theorem reading_ignores_presentation (derive : Derive) (laws : derive.Laws)
    (members : List (String × Json)) :
    (∀ (operation : Operation) (changed : List (String × Json)),
      derive.operation.decode (.object members) = some operation →
        Restyled derive operation.kind members changed →
          derive.operation.decode (.object changed) = some operation) ∧
    (1 < Json.occurrences "kind" members → derive.operation.decode (.object members) = none) ∧
    ∀ kind : Kind, ("kind", .string kind.method) ∈ members → Flawed derive kind members →
      derive.operation.decode (.object members) = none := by
  refine ⟨?_, ?_, ?_⟩
  · intro operation changed hdecode hchanged
    obtain ⟨kind, fields, hunique, hkind, hfields, rfl⟩ := (decode_eq_some_iff laws).mp hdecode
    rw [kind_ofFields] at hchanged
    have hsame := hchanged.sameUnder_kind laws
    exact (decode_eq_some_iff laws).mpr ⟨kind, fields, hsame.occurrences_eq ▸ hunique,
      (hsame.mem_iff _).mp hkind, hchanged.reads_fields laws hfields, rfl⟩
  · intro hrepeated
    refine Option.eq_none_iff_forall_ne_some.mpr fun operation hdecode => ?_
    obtain ⟨kind, fields, hunique, -⟩ := (decode_eq_some_iff laws).mp hdecode
    omega
  · intro kind hkind hflawed
    refine Option.eq_none_iff_forall_ne_some.mpr fun operation hdecode => ?_
    obtain ⟨kind', fields, hunique, hkind', hfields, -⟩ := (decode_eq_some_iff laws).mp hdecode
    have hmethod := Json.eq_of_mem_of_mem (Nat.le_of_eq hunique) hkind' hkind
    obtain rfl : kind' = kind := Kind.units.eq_of_name_eq (Json.string.inj hmethod)
    exact hflawed.not_reads_fields laws hfields

/-- The default of a column can be left to the reader, a second kind cannot be passed over, and a
column cannot have two names. -/
theorem reading_ignores_presentation_columns :
    let users (column : List (String × Json)) : List (String × Json) :=
      [("columns", .array [.object column]), ("kind", .string "CreateTable")]
    codec.decode (.object (users [("name", .string "id"), ("isNullable", .bool false)])) =
      some (.createTable { columns := [{ name := "id" }] }) ∧
    codec.decode (.object (("kind", .string "DropTable") :: users [])) = none ∧
    codec.decode (.object (users [("name", .string "id"), ("name", .string "id")])) = none := by
  intro users
  have hplace : Table.Place .standard Derive.standard.column users :=
    .column [] [("kind", .string "CreateTable")] [] []
  have hread : codec.decode (.object (users [("name", .string "id")])) =
      some (.createTable { columns := [{ name := "id" }] }) := by decide
  have hname : Derive.standard.column.fields[0] ∈ Derive.standard.column.fields :=
    List.getElem_mem _
  have hnullable : Derive.standard.column.fields[4] ∈ Derive.standard.column.fields :=
    List.getElem_mem _
  refine ⟨?_, ?_, ?_⟩
  · refine (reading_ignores_presentation .standard Derive.laws_standard _).1 _ _ hread
      (.part hplace ?_)
    exact .supplied [("name", .string "id")] [] hnullable rfl (by decide)
  · exact (reading_ignores_presentation .standard Derive.laws_standard _).2.1 (by decide)
  · refine (reading_ignores_presentation .standard Derive.laws_standard _).2.2 .createTable
      (List.mem_cons_of_mem _ List.mem_cons_self) (.part hplace ?_)
    exact .repeated hname (by decide)

end Operation

end MigrationScript
