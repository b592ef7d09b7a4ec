import MigrationScript.Proofs.Meaning.Slot

/-!
# Numbers that are received

One parameter is looked at, with a number and with a zero in the place of it. What is read of the
others is the same, so that the number decides over nothing but itself (`Hinges`).
-/

namespace MigrationScript

/-- The operation holds the value for the parameter; a table holds it for one of its columns, which
is told by the number of those in front of it. -/
inductive Operation.Holds : Operation → Option Nat → String → DefaultValue → Prop
  | added {column : Column} {held : DefaultValue} : column.defaultValue = some held →
    Holds (.addColumn column) none "defaultValue" held
  | altered {column : Column} {held : DefaultValue} : column.defaultValue = some held →
    Holds (.alterColumn column) none "defaultValue" held
  | declared {table : Table} {index : Nat} {column : Column} {held : DefaultValue} :
    table.columns[index]? = some column → column.defaultValue = some held →
      Holds (.createTable table) (some index) "defaultValue" held
  | changedIncrement {change : SequenceChange} {word : Int32} : change.incrementBy = some word →
    Holds (.alterSequence change) none "incrementBy" (.int word)
  | changedMin {change : SequenceChange} {word : Int64} : change.minValue = some word →
    Holds (.alterSequence change) none "minValue" (.long word)
  | changedMax {change : SequenceChange} {word : Int64} : change.maxValue = some word →
    Holds (.alterSequence change) none "maxValue" (.long word)
  | start {sequence : Sequence} {word : Int64} : sequence.startWith = some word →
    Holds (.createSequence sequence) none "startWith" (.long word)
  | increment {sequence : Sequence} {word : Int32} : sequence.incrementBy = some word →
    Holds (.createSequence sequence) none "incrementBy" (.int word)
  | min {sequence : Sequence} {word : Int64} : sequence.minValue = some word →
    Holds (.createSequence sequence) none "minValue" (.long word)
  | max {sequence : Sequence} {word : Int64} : sequence.maxValue = some word →
    Holds (.createSequence sequence) none "maxValue" (.long word)
  | restart {restart : SequenceRestart} {word : Int64} : restart.restartWith = word →
    Holds (.restartSequence restart) none "with" (.long word)

/-- The parameters of statements that take numbers. -/
inductive Kind.Counts : Kind → String → Prop
  | added : Counts .addColumn "defaultValue"
  | altered : Counts .alterColumn "defaultValue"
  | changedIncrement : Counts .alterSequence "incrementBy"
  | changedMin : Counts .alterSequence "minValue"
  | changedMax : Counts .alterSequence "maxValue"
  | start : Counts .createSequence "startWith"
  | increment : Counts .createSequence "incrementBy"
  | min : Counts .createSequence "minValue"
  | max : Counts .createSequence "maxValue"
  | restart : Counts .restartSequence "with"

theorem Slot.mem_of_ofParameter? {name : String} {slot : Slot}
    (h : Slot.ofParameter? name = some slot) :
    name ∈ ["incrementBy", "startWith", "minValue", "maxValue", "with", "defaultValue"] := by
  unfold ofParameter? at h
  split at h <;> first | decide | cases h

/-- No other parameter of a statement has the name of one that takes numbers. -/
theorem Kind.counts_of_mem {kind : Kind} {name : String} {slot : Slot}
    (hslot : Slot.ofParameter? name = some slot) (hname : name ∈ kind.parameters.map (·.name)) :
    kind.Counts name := by
  have hmem := Slot.mem_of_ofParameter? hslot
  simp only [List.mem_cons, List.not_mem_nil, or_false] at hmem
  obtain rfl | rfl | rfl | rfl | rfl | rfl := hmem <;> cases kind <;>
    first | exact absurd hname (by decide) | constructor

namespace Bound

variable {bound other : Bound} {name : String} {slot : Slot} {value : Expr}
  {schema : Option String}

/-! ### What is read is held -/

section Held

variable (hvalue : bound.value? name = some value)

include hvalue

theorem exists_of_optional {α : Type} {convert : Conversion α} {given : Option α}
    (h : bound.optional convert name = .ok given) :
    ∃ word, convert name value = .ok word ∧ given = some word := by
  rw [optional, hvalue] at h
  obtain ⟨word, hword, rfl⟩ := except_map_eq_ok.mp h
  exact ⟨word, hword, rfl⟩

theorem exists_of_optional_toInt {given : Option Int32}
    (h : bound.optional Expr.toInt name = .ok given) :
    ∃ word, Slot.int.read name value = .ok (.int word) ∧ given = some word := by
  obtain ⟨word, hword, hgiven⟩ := exists_of_optional hvalue h
  exact ⟨word, by rw [Slot.read, hword, Except.map], hgiven⟩

theorem exists_of_optional_toLong {given : Option Int64}
    (h : bound.optional Expr.toLong name = .ok given) :
    ∃ word, Slot.long.read name value = .ok (.long word) ∧ given = some word := by
  obtain ⟨word, hword, hgiven⟩ := exists_of_optional hvalue h
  exact ⟨word, by rw [Slot.read, hword, Except.map], hgiven⟩

end Held

/-- The values of the parameters are the numbers of a sequence. -/
structure GivesNumbers (bound : Bound) (incrementBy : Option Int32)
    (minValue maxValue : Option Int64) : Prop where
  incrementBy : bound.optional Expr.toInt "incrementBy" = .ok incrementBy
  minValue : bound.optional Expr.toLong "minValue" = .ok minValue
  maxValue : bound.optional Expr.toLong "maxValue" = .ok maxValue

theorem ensures_defaultValue_toColumn : Ensures (bound.toColumn schema) fun column =>
    bound.optional Expr.toDefault "defaultValue" = .ok column.defaultValue := by
  unfold toColumn
  iterate 3 refine .bind fun _ _ => ?_
  exact fun column h => (columnOptions_eq_ok_iff.mp h).2.defaultValue

theorem ensures_numbers_toSequenceChange : Ensures (bound.toSequenceChange schema) fun change =>
    bound.GivesNumbers change.incrementBy change.minValue change.maxValue := by
  unfold toSequenceChange
  refine .bind fun _ _ => .bind fun _ hincrement => .bind fun _ hmin => .bind fun _ hmax => ?_
  exact .bind fun _ _ => .ok ⟨hincrement, hmin, hmax⟩

theorem ensures_numbers_toSequence : Ensures (bound.toSequence schema) fun sequence =>
    bound.optional Expr.toLong "startWith" = .ok sequence.startWith ∧
      bound.GivesNumbers sequence.incrementBy sequence.minValue sequence.maxValue := by
  unfold toSequence
  refine .bind fun _ _ => .bind fun _ _ => .bind fun _ hstart => ?_
  refine .bind fun _ hincrement => .bind fun _ hmin => .bind fun _ hmax => ?_
  exact .bind fun _ _ => .ok ⟨hstart, hincrement, hmin, hmax⟩

theorem ensures_number_toSequenceRestart : Ensures (bound.toSequenceRestart schema) fun restart =>
    bound.optional Expr.toLong "with" = .ok (some restart.restartWith) := by
  unfold toSequenceRestart
  refine .bind fun _ _ => .bind fun _ hwith => .ok ?_
  exact required_eq_ok_iff_optional.mp hwith

/-- The operation holds exactly what the parameter reads. -/
theorem holds_of_toOperation {kind : Kind} {operation : Operation}
    (hslot : Slot.ofParameter? name = some slot) (hcounts : kind.Counts name)
    (hvalue : bound.value? name = some value) (h : bound.toOperation kind = .ok operation) :
    ∃ held, slot.read name value = .ok held ∧ operation.Holds none name held := by
  obtain ⟨schema, -, h⟩ := except_bind_eq_ok.mp h
  cases hcounts <;> cases hslot <;> obtain ⟨made, hmade, ⟨⟩⟩ := except_bind_eq_ok.mp h
  case added =>
    obtain ⟨held, hread, hheld⟩ :=
      exists_of_optional hvalue (ensures_defaultValue_toColumn made hmade)
    exact ⟨held, hread, .added hheld⟩
  case altered =>
    obtain ⟨held, hread, hheld⟩ :=
      exists_of_optional hvalue (ensures_defaultValue_toColumn made hmade)
    exact ⟨held, hread, .altered hheld⟩
  case changedIncrement =>
    obtain ⟨word, hread, hword⟩ :=
      exists_of_optional_toInt hvalue (ensures_numbers_toSequenceChange made hmade).incrementBy
    exact ⟨.int word, hread, .changedIncrement hword⟩
  case changedMin =>
    obtain ⟨word, hread, hword⟩ :=
      exists_of_optional_toLong hvalue (ensures_numbers_toSequenceChange made hmade).minValue
    exact ⟨.long word, hread, .changedMin hword⟩
  case changedMax =>
    obtain ⟨word, hread, hword⟩ :=
      exists_of_optional_toLong hvalue (ensures_numbers_toSequenceChange made hmade).maxValue
    exact ⟨.long word, hread, .changedMax hword⟩
  case start =>
    obtain ⟨word, hread, hword⟩ :=
      exists_of_optional_toLong hvalue (ensures_numbers_toSequence made hmade).1
    exact ⟨.long word, hread, .start hword⟩
  case increment =>
    obtain ⟨word, hread, hword⟩ :=
      exists_of_optional_toInt hvalue (ensures_numbers_toSequence made hmade).2.incrementBy
    exact ⟨.int word, hread, .increment hword⟩
  case min =>
    obtain ⟨word, hread, hword⟩ :=
      exists_of_optional_toLong hvalue (ensures_numbers_toSequence made hmade).2.minValue
    exact ⟨.long word, hread, .min hword⟩
  case max =>
    obtain ⟨word, hread, hword⟩ :=
      exists_of_optional_toLong hvalue (ensures_numbers_toSequence made hmade).2.maxValue
    exact ⟨.long word, hread, .max hword⟩
  case restart =>
    obtain ⟨word, hread, hword⟩ :=
      exists_of_optional_toLong hvalue (ensures_number_toSequenceRestart made hmade)
    exact ⟨.long word, hread, .restart (Option.some.inj hword)⟩

end Bound

/-! ### What does not depend on the number -/

/-- Where the second gives a value the first gives one too, unless it fails as the reading does. -/
def Hinges {ε α γ : Type} (reading : Except ε γ) (first second : Except ε α) : Prop :=
  (∃ value, second = .ok value) →
    (∃ value, first = .ok value) ∨ ∃ error, reading = .error error ∧ first = .error error

namespace Hinges

variable {ε α β γ : Type} {reading : Except ε γ} {first second : Except ε α}

theorem refl (outcome : Except ε α) : Hinges reading outcome outcome :=
  .inl

theorem ok {value : α} : Hinges reading (.ok value) second :=
  fun _ => .inl ⟨value, rfl⟩

theorem bind {further further' : α → Except ε β} (h : Hinges reading first second)
    (hfurther : ∀ value value', Hinges reading (further value) (further' value')) :
    Hinges reading (first >>= further) (second >>= further') := by
  rintro ⟨result, hresult⟩
  obtain ⟨value', hvalue', hresult⟩ := except_bind_eq_ok.mp hresult
  obtain ⟨value, rfl⟩ | ⟨error, hreading, rfl⟩ := h ⟨value', hvalue'⟩
  · exact hfurther value value' ⟨result, hresult⟩
  · exact .inr ⟨error, hreading, rfl⟩

end Hinges

namespace Slot

/-- If the parameter takes numbers the conversion reads them as its slot does. -/
def Agrees {α : Type} (convert : Conversion α) (parameter : String) : Prop :=
  ∀ slot, ofParameter? parameter = some slot →
    ∃ make, ∀ value, slot.read parameter value = (convert parameter value).map make

namespace Agrees

variable {α : Type} {convert : Conversion α} {parameter : String}

theorem of_none (hnone : ofParameter? parameter = none) : Agrees convert parameter := by
  intro slot hslot
  cases hnone.symm.trans hslot

theorem toInt (hint : ofParameter? parameter = some .int) : Agrees Expr.toInt parameter := by
  intro slot hslot
  cases hint.symm.trans hslot
  exact ⟨_, fun _ => rfl⟩

theorem toLong (hlong : ofParameter? parameter = some .long) : Agrees Expr.toLong parameter := by
  intro slot hslot
  cases hlong.symm.trans hslot
  exact ⟨_, fun _ => rfl⟩

theorem toDefault (hdefault : ofParameter? parameter = some .default) :
    Agrees Expr.toDefault parameter := by
  intro slot hslot
  cases hdefault.symm.trans hslot
  exact ⟨id, fun value => (congrFun Except.map_id _).symm⟩

theorem read_eq_error (hagrees : Agrees convert parameter) {slot : Slot}
    (hslot : ofParameter? parameter = some slot) {value : Expr} {error : ScriptError}
    (h : convert parameter value = .error error) : slot.read parameter value = .error error := by
  obtain ⟨make, hmake⟩ := hagrees slot hslot
  rw [hmake, h]
  rfl

end Agrees

end Slot

namespace Bound

/-- The same values but for one parameter, to which the other gives a zero. -/
structure Differs (name : String) (bound other : Bound) : Prop where
  others : ∀ parameter, parameter ≠ name → other.value? parameter = bound.value? parameter
  zero : ∃ span, other.value? name = some (.constant (.integer 0 false) span)

section Hinges

variable {bound other : Bound} {name : String} {slot : Slot} {value : Expr}
  (hslot : Slot.ofParameter? name = some slot) (hvalue : bound.value? name = some value)
  (hdiffers : bound.Differs name other)

include hvalue hdiffers

theorem Differs.isSome (parameter : String) :
    (other.value? parameter).isSome = (bound.value? parameter).isSome := by
  by_cases hname : parameter = name
  · obtain ⟨span, hzero⟩ := hdiffers.zero
    rw [hname, hvalue, hzero]
    rfl
  · rw [hdiffers.others parameter hname]

theorem hinges_exclusive {γ : Type} {reading : Except ScriptError γ} (first second : String) :
    Hinges reading (bound.exclusive first second) (other.exclusive first second) := by
  unfold exclusive
  rw [hdiffers.isSome hvalue, hdiffers.isSome hvalue]
  split
  · rintro ⟨_, ⟨⟩⟩
  · exact .ok

include hslot

/-- A parameter is read alike, or it is the one that takes the number. -/
theorem hinges_required {α : Type} {convert : Conversion α} {parameter : String}
    (hagrees : Slot.Agrees convert parameter) :
    Hinges (slot.read name value) (bound.required convert parameter)
      (other.required convert parameter) := by
  unfold required
  by_cases hname : parameter = name
  · subst hname
    rw [hvalue]
    dsimp only
    cases hread : convert parameter value with
    | ok word => exact .ok
    | error error => exact fun _ => .inr ⟨error, hagrees.read_eq_error hslot hread, rfl⟩
  · rw [hdiffers.others parameter hname]
    cases bound.value? parameter with
    | some given => exact .refl _
    | none => rintro ⟨_, ⟨⟩⟩

theorem hinges_optional {α : Type} {convert : Conversion α} {parameter : String}
    (hagrees : Slot.Agrees convert parameter) :
    Hinges (slot.read name value) (bound.optional convert parameter)
      (other.optional convert parameter) := by
  unfold optional
  by_cases hname : parameter = name
  · subst hname
    rw [hvalue]
    dsimp only
    cases hread : convert parameter value with
    | ok word => exact .ok
    | error error => exact fun _ => .inr ⟨error, hagrees.read_eq_error hslot hread, rfl⟩
  · rw [hdiffers.others parameter hname]
    exact .refl _

theorem hinges_columnOptions (column column' : Column) :
    Hinges (slot.read name value) (bound.columnOptions column) (other.columnOptions column') := by
  unfold columnOptions
  refine (hinges_exclusive hvalue hdiffers _ _).bind fun _ _ => ?_
  refine (hinges_optional hslot hvalue hdiffers (.of_none rfl)).bind fun _ _ => ?_
  refine (hinges_optional hslot hvalue hdiffers (.toDefault rfl)).bind fun _ _ => ?_
  refine (hinges_optional hslot hvalue hdiffers (.of_none rfl)).bind fun _ _ => ?_
  exact .ok

theorem hinges_toColumn (schema schema' : Option String) :
    Hinges (slot.read name value) (bound.toColumn schema) (other.toColumn schema') := by
  unfold toColumn
  refine (hinges_required hslot hvalue hdiffers (.of_none rfl)).bind fun _ _ => ?_
  refine (hinges_required hslot hvalue hdiffers (.of_none rfl)).bind fun _ _ => ?_
  refine (hinges_required hslot hvalue hdiffers (.of_none rfl)).bind fun _ _ => ?_
  exact hinges_columnOptions hslot hvalue hdiffers _ _

theorem hinges_toSequenceChange (schema schema' : Option String) :
    Hinges (slot.read name value) (bound.toSequenceChange schema)
      (other.toSequenceChange schema') := by
  unfold toSequenceChange
  refine (hinges_required hslot hvalue hdiffers (.of_none rfl)).bind fun _ _ => ?_
  refine (hinges_optional hslot hvalue hdiffers (.toInt rfl)).bind fun _ _ => ?_
  refine (hinges_optional hslot hvalue hdiffers (.toLong rfl)).bind fun _ _ => ?_
  refine (hinges_optional hslot hvalue hdiffers (.toLong rfl)).bind fun _ _ => ?_
  refine (hinges_optional hslot hvalue hdiffers (.of_none rfl)).bind fun _ _ => ?_
  exact .ok

theorem hinges_toSequence (schema schema' : Option String) :
    Hinges (slot.read name value) (bound.toSequence schema) (other.toSequence schema') := by
  unfold toSequence
  refine (hinges_required hslot hvalue hdiffers (.of_none rfl)).bind fun _ _ => ?_
  refine (hinges_optional hslot hvalue hdiffers (.of_none rfl)).bind fun _ _ => ?_
  refine (hinges_optional hslot hvalue hdiffers (.toLong rfl)).bind fun _ _ => ?_
  refine (hinges_optional hslot hvalue hdiffers (.toInt rfl)).bind fun _ _ => ?_
  refine (hinges_optional hslot hvalue hdiffers (.toLong rfl)).bind fun _ _ => ?_
  refine (hinges_optional hslot hvalue hdiffers (.toLong rfl)).bind fun _ _ => ?_
  refine (hinges_optional hslot hvalue hdiffers (.of_none rfl)).bind fun _ _ => ?_
  exact .ok

theorem hinges_toSequenceRestart (schema schema' : Option String) :
    Hinges (slot.read name value) (bound.toSequenceRestart schema)
      (other.toSequenceRestart schema') := by
  unfold toSequenceRestart
  refine (hinges_required hslot hvalue hdiffers (.of_none rfl)).bind fun _ _ => ?_
  refine (hinges_required hslot hvalue hdiffers (.toLong rfl)).bind fun _ _ => ?_
  exact .ok

/-- With another number the operation would be there, or not, for the same reasons. -/
theorem hinges_toOperation {kind : Kind} (hcounts : kind.Counts name) :
    Hinges (slot.read name value) (bound.toOperation kind) (other.toOperation kind) := by
  refine (hinges_optional hslot hvalue hdiffers (.of_none rfl)).bind fun schema schema' => ?_
  cases hcounts with
  | added | altered =>
    exact (hinges_toColumn hslot hvalue hdiffers schema schema').bind fun _ _ => .ok
  | changedIncrement | changedMin | changedMax =>
    exact (hinges_toSequenceChange hslot hvalue hdiffers schema schema').bind fun _ _ => .ok
  | start | increment | min | max =>
    exact (hinges_toSequence hslot hvalue hdiffers schema schema').bind fun _ _ => .ok
  | restart =>
    exact (hinges_toSequenceRestart hslot hvalue hdiffers schema schema').bind fun _ _ => .ok

end Hinges

end Bound

end MigrationScript
