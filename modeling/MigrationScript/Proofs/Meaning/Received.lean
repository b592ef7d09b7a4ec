import MigrationScript.Proofs.Meaning.Culprit
import MigrationScript.Proofs.Meaning.DefaultColumn

namespace MigrationScript

/-- The calls are of the same method on the same target. -/
structure Call.SameMethod (first second : Call) : Prop where
  target : second.target = first.target
  method : second.method = first.method

namespace Bound

/-- The values are those of the arguments of the statement, or of the call that declares a column of
its table, which is told by the number of those in front of it. -/
inductive Feeds (statement : Call) : Option Nat → Bound → Prop
  | statement {kind : Kind} {bound : Bound} : statement.method = kind.method →
    ofCall statement kind.parameters = .ok bound → Feeds statement none bound
  | column {table bound : Bound} {place : ColumnPlace} {made : Call} :
    statement.method = Kind.createTable.method →
    ofCall statement Kind.createTable.parameters = .ok table →
    table.value? "columns" = some (place.function made) → made.method = "Column" →
    ofCall made Parameter.declaredColumn = .ok bound →
      Feeds statement (some place.before.length) bound

/-- The other statement is the same but for one of the values, which is a zero. -/
inductive Zeroed (name : String) (statement other : Call) : Bound → Prop
  | statement {kind : Kind} {bound bound' : Bound} : statement.SameMethod other →
    statement.method = kind.method → ofCall statement kind.parameters = .ok bound →
    ofCall other kind.parameters = .ok bound' → bound.Differs name bound' →
    Zeroed name statement other bound
  | column {table table' bound bound' : Bound} {place : ColumnPlace} {made made' : Call} :
    statement.SameMethod other → statement.method = Kind.createTable.method →
    ofCall statement Kind.createTable.parameters = .ok table →
    ofCall other Kind.createTable.parameters = .ok table' → table.SameButColumns table' →
    table.value? "columns" = some (place.function made) →
    table'.value? "columns" = some (place.function made') → made.SameMethod made' →
    ofCall made Parameter.declaredColumn = .ok bound →
    ofCall made' Parameter.declaredColumn = .ok bound' → bound.Differs name bound' →
    Zeroed name statement other bound

variable {statement other : Call} {bound : Bound} {name builder : String} {value : Expr}
  {slot : Slot} {column : Option Nat}

/-! ### The parameters of a call -/

theorem mem_names_of_mem_entries {parameters : List Parameter} {arguments : List Argument}
    {entry : String × Expr} (h : Fills parameters arguments)
    (hmem : entry ∈ entries parameters arguments) : entry.1 ∈ parameters.map (·.name) := by
  rcases List.mem_append.mp hmem with hmem | hmem
  · exact (List.of_mem_zip hmem).1
  · exact h.known entry hmem

theorem mem_names_of_value? {call : Call} {parameters : List Parameter}
    (hnodup : (parameters.map (·.name)).Nodup) (hbound : ofCall call parameters = .ok bound)
    (hvalue : bound.value? name = some value) : name ∈ parameters.map (·.name) := by
  obtain ⟨hfills, rfl, -⟩ := (ofCall_eq_ok_iff hnodup).mp hbound
  exact mem_names_of_mem_entries hfills (mem_given_of_value? hvalue)

theorem counts_of_ofCall {kind : Kind} (hslot : Slot.ofParameter? name = some slot)
    (hbound : ofCall statement kind.parameters = .ok bound)
    (hvalue : bound.value? name = some value) : kind.Counts name :=
  Kind.counts_of_mem hslot (mem_names_of_value? kind.nodup_parameters hbound hvalue)

/-- The only number that a declared column has is its default. -/
theorem default_of_ofCall {made : Call} (hslot : Slot.ofParameter? name = some slot)
    (hbound : ofCall made Parameter.declaredColumn = .ok bound)
    (hvalue : bound.value? name = some value) : name = "defaultValue" ∧ slot = .default := by
  have hmem := mem_names_of_value? (by decide) hbound hvalue
  simp only [Parameter.declaredColumn, Parameter.optional, Parameter.required, List.map_cons,
    List.map_nil, List.mem_cons, List.not_mem_nil, or_false] at hmem
  obtain rfl | rfl | rfl | rfl | rfl := hmem <;> cases hslot
  exact ⟨rfl, rfl⟩

/-- The call that declares a column stands in the statement. -/
theorem within_of_columns {table : Bound} {place : ColumnPlace} {made : Call}
    (h : table.IsOf statement) (hcolumns : table.value? "columns" = some (place.function made)) :
    Within (.call statement) (.call made) := by
  have hfunction : Within (.call statement) (.expr (place.function made)) :=
    h.within_value hcolumns
  have hobject := hfunction.child (List.mem_singleton_self _)
  have hmember : Within (.call statement)
      (.member (.named place.identifier (.call made) place.span)) :=
    hobject.child (List.mem_map_of_mem (List.mem_append_right _ List.mem_cons_self))
  exact (hmember.child (List.mem_singleton_self _)).child (List.mem_singleton_self _)

theorem isOf_statement {kind : Kind} (hmethod : statement.method = kind.method)
    (hbound : ofCall statement kind.parameters = .ok bound) : bound.IsOf statement :=
  isOf_of_ofCall (.statement (Kind.ofMethod?_eq_some_iff.mpr hmethod.symm)) hbound

theorem Feeds.isOf (h : bound.Feeds statement column) : bound.IsOf statement := by
  cases h with
  | statement hmethod hbound => exact isOf_statement hmethod hbound
  | column hmethod htable hcolumns hcolumn hbound =>
    have hinner := within_of_columns (isOf_statement hmethod htable) hcolumns
    exact isOf_of_ofCall (.column hinner hcolumn) hbound

/-! ### What is received is held -/

theorem target_of_operation {operation : Operation}
    (h : statement.operation builder = .ok operation) : statement.target = builder := by
  obtain ⟨_, haddresses, -⟩ := except_bind_eq_ok.mp h
  exact Call.addresses_eq_ok_iff.mp haddresses

/-- The operation that the statement means holds the number, for its parameter. -/
theorem Feeds.holds (h : bound.Feeds statement column)
    (hslot : Slot.ofParameter? name = some slot) (hvalue : bound.value? name = some value)
    {operation : Operation} (hoperation : statement.operation builder = .ok operation) :
    ∃ held, slot.read name value = .ok held ∧ operation.Holds column name held := by
  cases h with
  | statement hmethod hbound =>
    have htarget := target_of_operation hoperation
    rw [Call.operation_of_ofCall htarget hmethod hbound] at hoperation
    exact holds_of_toOperation hslot (counts_of_ofCall hslot hbound hvalue) hvalue hoperation
  | column hmethod htable hcolumns _ hbound =>
    obtain ⟨rfl, rfl⟩ := default_of_ofCall hslot hbound hvalue
    obtain ⟨-, found, table, hfound, hread, rfl⟩ :=
      (Call.operation_eq_ok_iff_ofBound hmethod).mp hoperation
    cases htable.symm.trans hfound
    obtain ⟨held, hheld, column, hcolumn, hdefault⟩ :=
      Table.exists_default_of_ofBound hcolumns hbound hvalue hread
    exact ⟨held, hheld, .declared hcolumn hdefault⟩

/-- So the parameter has received something, and the operation holds it. -/
theorem Feeds.exists_received {span : Span} {outcome : Except ScriptCause DefaultValue}
    {operation : Operation} (h : bound.Feeds statement column)
    (hslot : Slot.ofParameter? name = some slot) (hvalue : bound.value? name = some value)
    (hread : slot.read name value = Slot.located span outcome)
    (hoperation : statement.operation builder = .ok operation) :
    ∃ held, outcome = .ok held ∧ operation.Holds column name held := by
  obtain ⟨held, hheld, hholds⟩ := h.holds hslot hvalue hoperation
  rw [hread] at hheld
  cases outcome with
  | ok received =>
    cases hheld
    exact ⟨held, rfl, hholds⟩
  | error cause => cases hheld

/-! ### What else matters -/

/-- With a zero instead the statement would mean an operation, or none, for the same reasons. -/
theorem Zeroed.hinges (h : bound.Zeroed name statement other)
    (hslot : Slot.ofParameter? name = some slot) (hvalue : bound.value? name = some value) :
    Hinges (slot.read name value) (statement.operation builder) (other.operation builder) := by
  rintro ⟨operation, hoperation⟩
  have htarget := target_of_operation hoperation
  cases h with
  | @statement kind _ bound' hsame hmethod hbound hbound' hdiffers =>
    rw [Call.operation_of_ofCall htarget (hsame.method.trans hmethod) hbound'] at hoperation
    rw [Call.operation_of_ofCall (hsame.target ▸ htarget) hmethod hbound]
    exact hinges_toOperation hslot hvalue hdiffers (counts_of_ofCall hslot hbound hvalue)
      ⟨operation, hoperation⟩
  | column hsame hmethod htable htable' hothers hcolumns hcolumns' hmade hbound hbound' hdiffers =>
    rw [Call.operation_of_ofCall htarget (hsame.method.trans hmethod) htable'] at hoperation
    rw [Call.operation_of_ofCall (hsame.target ▸ htarget) hmethod htable]
    refine Hinges.bind ?_ (fun _ _ => Hinges.bind ?_ fun _ _ => .ok) ⟨operation, hoperation⟩
    · rw [hothers.optional (by decide)]
      exact .refl _
    · exact Table.hinges_ofBound hslot hvalue hdiffers hbound hbound' hmade.target hmade.method
        hothers hcolumns hcolumns'

end Bound

/-- The statement records an operation that holds what a parameter has received. If it has received
nothing the statement fails with the reason, which has the place of the number. -/
def Call.RecordsNumber (builder : String) (column : Option Nat) (name : String) (span : Span)
    (statement : Call) : Except ScriptCause DefaultValue → Prop
  | .ok held => ∃ operation, statement.Appends builder operation ∧ operation.Holds column name held
  | .error cause => statement.FailsWith builder ⟨cause, span⟩

theorem Bound.Zeroed.records {statement other : Call} {bound : Bound} {name builder : String}
    {value : Expr} {slot : Slot} {column : Option Nat} {span : Span}
    {outcome : Except ScriptCause DefaultValue} {operation : Operation}
    (h : bound.Zeroed name statement other) (hfeeds : bound.Feeds statement column)
    (hslot : Slot.ofParameter? name = some slot) (hvalue : bound.value? name = some value)
    (hread : slot.read name value = Slot.located span outcome)
    (hother : other.Appends builder operation) :
    statement.RecordsNumber builder column name span outcome := by
  have hhinges := h.hinges hslot hvalue ⟨operation, Call.appends_iff_operation.mp hother⟩
  rw [hread] at hhinges
  obtain ⟨found, hfound⟩ | ⟨error, herror, hfails⟩ := hhinges
  · obtain ⟨held, rfl, hholds⟩ := hfeeds.exists_received hslot hvalue hread hfound
    exact ⟨found, Call.appends_of_operation hfound, hholds⟩
  · cases outcome with
    | ok held => cases herror
    | error cause =>
      cases herror
      exact Call.failsWith_of_operation hfails

end MigrationScript
