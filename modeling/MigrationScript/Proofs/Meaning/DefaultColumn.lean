import MigrationScript.Proofs.Meaning.Numbers

namespace MigrationScript

/-! ### Constraints do not see defaults -/

/-- Each column of the first is declared under its identifier and its name by the second. -/
def SameNames (first second : DeclaredColumns) : Prop :=
  ∀ identifier column, (identifier, column) ∈ first →
    ∃ other, (identifier, other) ∈ second ∧ other.name = column.name

section Constraints

variable {first second : DeclaredColumns} {owner : Owner} {parameter : String}

theorem SelectsPath.of_sameNames {segments : List String} {name : String}
    (h : SelectsPath first parameter segments name) (hsame : SameNames first second) :
    SelectsPath second parameter segments name := by
  cases h with
  | column hmem =>
    obtain ⟨other, hother, hname⟩ := hsame _ _ hmem
    exact hname ▸ .column hother

theorem Expr.Selects.of_sameNames {function : Expr} {names : List String}
    (h : function.Selects first names) (hsame : SameNames first second) :
    function.Selects second names := by
  cases h with
  | path h => exact .path (h.of_sameNames hsame)
  | object hmembers =>
    refine .object (hmembers.imp fun _ _ h => ?_)
    cases h with
    | path h => exact .path (h.of_sameNames hsame)

theorem Call.DeclaresKey.of_sameNames {call : Call} {key : Key}
    (h : call.DeclaresKey owner first key) (hsame : SameNames first second) :
    call.DeclaresKey owner second key := by
  obtain ⟨hbelongs, bound, selector, hbound, hname, hselector, hselects⟩ := h
  exact ⟨hbelongs, bound, selector, hbound, hname, hselector, hselects.of_sameNames hsame⟩

theorem Call.DeclaresForeignKey.of_sameNames {call : Call} {key : ForeignKey}
    (h : call.DeclaresForeignKey owner first key) (hsame : SameNames first second) :
    call.DeclaresForeignKey owner second key := by
  obtain ⟨hbelongs, bound, selector, hbound, hname, hselector, hselects, hgives⟩ := h
  exact ⟨hbelongs, bound, selector, hbound, hname, hselector, hselects.of_sameNames hsame, hgives⟩

theorem Call.Declares.of_sameNames {call : Call} {constraint : Constraint}
    (h : call.Declares owner first parameter constraint) (hsame : SameNames first second) :
    call.Declares owner second parameter constraint := by
  cases h with
  | primaryKey htarget hmethod hkey => exact .primaryKey htarget hmethod (hkey.of_sameNames hsame)
  | foreignKey htarget hmethod hkey => exact .foreignKey htarget hmethod (hkey.of_sameNames hsame)
  | unique htarget hmethod hkey => exact .unique htarget hmethod (hkey.of_sameNames hsame)

theorem DeclaresConstraints.of_sameNames {block : Option Expr} {constraints : List Constraint}
    (h : DeclaresConstraints owner first block constraints) (hsame : SameNames first second) :
    DeclaresConstraints owner second block constraints := by
  cases h with
  | none => exact .none
  | block hstatements => exact .block (hstatements.imp fun _ _ h => h.of_sameNames hsame)

end Constraints

/-! ### The column of a call -/

/-- A function that declares columns, one of them by the call. -/
structure ColumnPlace where
  parameter : String
  before : List Member
  identifier : String
  behind : List Member
  span : Span
  inner : Span
  outer : Span

/-- The function with a call in the place. -/
def ColumnPlace.function (place : ColumnPlace) (made : Call) : Expr :=
  .function place.parameter
    (.object (place.before ++ .named place.identifier (.call made) place.span :: place.behind)
      place.inner) place.outer

section Column

variable {bound other : Bound} {owner : Owner} {parameter identifier : String} {value : Expr}
  {made zeroed : Call} {column : Column}

/-- The column has exactly the default that the parameter reads. -/
theorem Call.DeclaresColumn.exists_default
    (h : made.DeclaresColumn owner parameter identifier column)
    (hbound : Bound.ofCall made Parameter.declaredColumn = .ok bound)
    (hvalue : bound.value? "defaultValue" = some value) :
    ∃ held, Slot.default.read "defaultValue" value = .ok held ∧
      column.defaultValue = some held := by
  obtain ⟨found, hfound, -, -, hgives⟩ := h.reads
  cases hbound.symm.trans hfound
  exact Bound.exists_of_optional hvalue hgives.defaultValue

theorem Table.column_of_ofCall {table : Table} (htarget : made.target = parameter)
    (hmethod : made.method = "Column")
    (hbound : Bound.ofCall made Parameter.declaredColumn = .ok bound) :
    table.column parameter identifier made = (do
      let name := (← bound.optional Expr.toText "name").getD identifier
      let type ← bound.required Expr.toText "type"
      bound.columnOptions { name, schema := table.schema, table := table.name, type }) := by
  have haddresses : made.addresses parameter = .ok () := Call.addresses_eq_ok_iff.mpr htarget
  rw [Table.column, haddresses, ok_bind, if_neg (not_not_intro hmethod), hbound]
  rfl

variable {slot : Slot} {name : String} (hslot : Slot.ofParameter? name = some slot)
  (hvalue : bound.value? name = some value) (hdiffers : bound.Differs name other)
  (hbound : Bound.ofCall made Parameter.declaredColumn = .ok bound)
  (hother : Bound.ofCall zeroed Parameter.declaredColumn = .ok other)
  (htarget : zeroed.target = made.target) (hmethod : zeroed.method = made.method)

include hslot hvalue hdiffers hbound hother htarget hmethod

theorem Table.hinges_column (table : Table) :
    Hinges (slot.read name value) (table.column parameter identifier made)
      (table.column parameter identifier zeroed) := by
  rintro ⟨column, hcolumn⟩
  have hdeclares := Table.column_eq_ok_iff.mp hcolumn
  have hfound := hcolumn
  rw [Table.column_of_ofCall hdeclares.target hdeclares.method hother] at hfound
  rw [Table.column_of_ofCall (htarget ▸ hdeclares.target) (hmethod ▸ hdeclares.method) hbound]
  refine Hinges.bind ?_ (fun _ _ => ?_) ⟨column, hfound⟩
  · exact Bound.hinges_optional hslot hvalue hdiffers (.of_none rfl)
  refine (Bound.hinges_required hslot hvalue hdiffers (.of_none rfl)).bind fun _ _ => ?_
  exact Bound.hinges_columnOptions hslot hvalue hdiffers _ _

end Column

/-! ### The table of the column -/

/-- The parts of a list that is related item by item. -/
theorem exists_middle {α β : Type} {related : α → β → Prop} {before behind : List α} {item : α}
    {values : List β} (h : List.Forall₂ related (before ++ item :: behind) values) :
    ∃ front value rest, values = front ++ value :: rest ∧ List.Forall₂ related before front ∧
      related item value ∧ List.Forall₂ related behind rest := by
  induction before generalizing values with
  | nil =>
    cases h with
    | cons hitem hbehind => exact ⟨[], _, _, rfl, .nil, hitem, hbehind⟩
  | cons first before ih =>
    cases h with
    | cons hfirst h =>
      obtain ⟨front, value, rest, rfl, hbefore, hitem, hbehind⟩ := ih h
      exact ⟨_ :: front, value, rest, rfl, .cons hfirst hbefore, hitem, hbehind⟩

section Table

variable {owner : Owner} {declared : DeclaredColumns} {place : ColumnPlace} {made zeroed : Call}

/-- What the function declares with one call tells the columns in front of it. -/
theorem Expr.DeclaresColumns.exists_column
    (h : (place.function zeroed).DeclaresColumns owner declared) :
    ∃ front column rest, declared = front ++ (place.identifier, column) :: rest ∧
      List.Forall₂ (Member.Declares owner place.parameter) place.before front ∧
      zeroed.DeclaresColumn owner place.parameter place.identifier column ∧
      List.Forall₂ (Member.Declares owner place.parameter) place.behind rest := by
  cases h with
  | object hmembers =>
    obtain ⟨front, _, rest, rfl, hbefore, ⟨hcolumn⟩, hbehind⟩ := exists_middle hmembers
    exact ⟨front, _, rest, rfl, hbefore, hcolumn, hbehind⟩

/-- Another call may declare another column of the same name. -/
theorem Expr.DeclaresColumns.exchange {front rest : DeclaredColumns} {column other : Column}
    (hnodup : ((front ++ (place.identifier, column) :: rest).map (·.1)).Nodup)
    (hbefore : List.Forall₂ (Member.Declares owner place.parameter) place.before front)
    (hother : made.DeclaresColumn owner place.parameter place.identifier other)
    (hbehind : List.Forall₂ (Member.Declares owner place.parameter) place.behind rest) :
    (place.function made).DeclaresColumns owner (front ++ (place.identifier, other) :: rest) := by
  refine .object (List.rel_append hbefore (.cons (.named hother) hbehind)) ?_
  rw [List.map_append, List.map_cons] at hnodup ⊢
  exact hnodup

theorem sameNames_exchange {front rest : DeclaredColumns} {identifier : String}
    {column other : Column} (hname : other.name = column.name) :
    SameNames (front ++ (identifier, column) :: rest) (front ++ (identifier, other) :: rest) := by
  intro found foundColumn hmem
  rcases List.mem_append.mp hmem with hmem | hmem
  · exact ⟨foundColumn, List.mem_append_left _ hmem, rfl⟩
  · rcases List.mem_cons.mp hmem with heq | hmem
    · cases heq
      exact ⟨other, List.mem_append_right _ List.mem_cons_self, hname⟩
    · exact ⟨foundColumn, List.mem_append_right _ (List.mem_cons_of_mem _ hmem), rfl⟩

/-- The columns in front can be read, and the call cannot. -/
theorem Table.declaredColumns_eq_error (table : Table) {front : DeclaredColumns}
    {error : ScriptError} (hnodup : (front.map (·.1)).Nodup)
    (hbefore : List.Forall₂ (Member.Declares table.owner place.parameter) place.before front)
    (h : table.column place.parameter place.identifier made = .error error) :
    table.declaredColumns (place.function made) = .error error := by
  have hfront : place.before.foldlM (table.addColumn place.parameter) [] = .ok front :=
    foldlM_addColumn_eq_ok_iff.mpr ⟨hbefore, hnodup⟩
  rw [ColumnPlace.function, declaredColumns, List.foldlM_append, hfront, ok_bind, List.foldlM_cons,
    addColumn, h]
  rfl

end Table

theorem Table.required_columns {bound : Bound} {place : ColumnPlace} {made : Call}
    (h : bound.value? "columns" = some (place.function made)) :
    bound.required Expr.toFunction "columns" = .ok (place.function made) := by
  rw [Bound.required, h]
  rfl

/-- A table that has been read has a name, a schema and constraints, or none of them. -/
theorem Table.exists_reads_of_ofBound {bound : Bound} {table : Table}
    (h : Table.ofBound bound = .ok table) :
    ∃ name schema block, bound.required Expr.toText "name" = .ok name ∧
      bound.optional Expr.toText "schema" = .ok schema ∧
      bound.optional Expr.toFunction "constraints" = .ok block := by
  obtain ⟨name, hname, h⟩ := except_bind_eq_ok.mp h
  obtain ⟨schema, hschema, h⟩ := except_bind_eq_ok.mp h
  obtain ⟨_, _, h⟩ := except_bind_eq_ok.mp h
  obtain ⟨_, _, h⟩ := except_bind_eq_ok.mp h
  obtain ⟨block, hblock, _⟩ := except_bind_eq_ok.mp h
  exact ⟨name, schema, block, hname, hschema, hblock⟩

/-- The table holds the default of the column that the call declares. -/
theorem Table.exists_default_of_ofBound {bound given : Bound} {place : ColumnPlace} {made : Call}
    {value : Expr} {table : Table} (hcolumns : given.value? "columns" = some (place.function made))
    (hbound : Bound.ofCall made Parameter.declaredColumn = .ok bound)
    (hvalue : bound.value? "defaultValue" = some value) (h : Table.ofBound given = .ok table) :
    ∃ held, Slot.default.read "defaultValue" value = .ok held ∧
      ∃ column, table.columns[place.before.length]? = some column ∧
        column.defaultValue = some held := by
  obtain ⟨name, schema, block, hname, hschema, hblock⟩ := exists_reads_of_ofBound h
  have hread := required_columns hcolumns
  obtain ⟨declared, constraints, hdeclares, -, -, rfl⟩ :=
    (ofBound_eq_ok_iff hname hschema hread hblock).mp h
  obtain ⟨front, column, rest, rfl, hfront, hcolumn, -⟩ := hdeclares.exists_column
  obtain ⟨held, hheld, hdefault⟩ := hcolumn.exists_default hbound hvalue
  refine ⟨held, hheld, column, ?_, hdefault⟩
  change (List.map (·.2) (front ++ (place.identifier, column) :: rest))[place.before.length]? =
    some column
  rw [hfront.length_eq, List.getElem?_map, List.getElem?_append_right (Nat.le_refl _), Nat.sub_self]
  rfl

section Hinges

variable {bound other table table' : Bound} {place : ColumnPlace} {made zeroed : Call}
  {slot : Slot} {name : String} {value : Expr}

/-- The values of all parameters but the columns are the same. -/
def Bound.SameButColumns (bound other : Bound) : Prop :=
  ∀ parameter, parameter ≠ "columns" → other.value? parameter = bound.value? parameter

theorem Bound.SameButColumns.optional {α : Type} {convert : Conversion α} {parameter : String}
    (h : table.SameButColumns table') (hne : parameter ≠ "columns") :
    table'.optional convert parameter = table.optional convert parameter := by
  rw [Bound.optional, Bound.optional, h parameter hne]

theorem Bound.SameButColumns.required {α : Type} {convert : Conversion α} {parameter : String}
    {result : α} (h : table.SameButColumns table') (hne : parameter ≠ "columns")
    (hread : table'.required convert parameter = .ok result) :
    table.required convert parameter = .ok result := by
  rw [Bound.required_eq_ok_iff_optional] at hread ⊢
  rwa [← h.optional hne]

theorem Bound.Differs.name_eq {owner : Owner} {parameter identifier : String}
    {column column' : Column} (hdiffers : bound.Differs name other) (hne : name ≠ "name")
    (hbound : Bound.ofCall made Parameter.declaredColumn = .ok bound)
    (hother : Bound.ofCall zeroed Parameter.declaredColumn = .ok other)
    (h : made.DeclaresColumn owner parameter identifier column)
    (h' : zeroed.DeclaresColumn owner parameter identifier column') :
    column.name = column'.name := by
  obtain ⟨found, hfound, ⟨given, hgiven, hname⟩, -⟩ := h.reads
  obtain ⟨found', hfound', ⟨given', hgiven', hname'⟩, -⟩ := h'.reads
  cases hbound.symm.trans hfound
  cases hother.symm.trans hfound'
  rw [Bound.optional, hdiffers.others "name" hne.symm] at hgiven'
  cases hgiven.symm.trans hgiven'
  rw [hname, hname']

/-- With another default the table would be there, or not, for the same reasons. -/
theorem Table.hinges_ofBound (hslot : Slot.ofParameter? name = some slot)
    (hvalue : bound.value? name = some value) (hdiffers : bound.Differs name other)
    (hbound : Bound.ofCall made Parameter.declaredColumn = .ok bound)
    (hother : Bound.ofCall zeroed Parameter.declaredColumn = .ok other)
    (htarget : zeroed.target = made.target) (hmethod : zeroed.method = made.method)
    (hsame : table.SameButColumns table')
    (hcolumns : table.value? "columns" = some (place.function made))
    (hcolumns' : table'.value? "columns" = some (place.function zeroed)) :
    Hinges (slot.read name value) (Table.ofBound table) (Table.ofBound table') := by
  have hne : name ≠ "name" := by
    rintro rfl
    cases hslot
  have hread := required_columns hcolumns
  have hread' := required_columns hcolumns'
  rintro ⟨result, hresult⟩
  obtain ⟨tableName, schema, block, htableName, hschema, hblock⟩ := exists_reads_of_ofBound hresult
  obtain ⟨declared, constraints, hdeclares, hconstraints, hone, rfl⟩ :=
    (ofBound_eq_ok_iff htableName hschema hread' hblock).mp hresult
  replace htableName := hsame.required (by decide) htableName
  rw [hsame.optional (by decide)] at hschema hblock
  have hnodup := hdeclares.nodup
  obtain ⟨front, column, rest, rfl, hbefore, hcolumn, hbehind⟩ := hdeclares.exists_column
  -- The column that the call declares is all that matters.
  have hhinges := hinges_column hslot hvalue hdiffers hbound hother htarget hmethod
    { name := tableName, schema } ⟨column, column_eq_ok_iff.mpr hcolumn⟩
  obtain ⟨found, hfound⟩ | ⟨error, herror, hfound⟩ := hhinges
  · have hfound := column_eq_ok_iff.mp hfound
    have hname := hdiffers.name_eq hne hbound hother hfound hcolumn
    refine .inl ⟨_, (ofBound_eq_ok_iff htableName hschema hread hblock).mpr
      ⟨_, constraints, .exchange hnodup hbefore hfound hbehind, ?_, hone, rfl⟩⟩
    exact hconstraints.of_sameNames (sameNames_exchange hname)
  · refine .inr ⟨error, herror, ?_⟩
    have hfront : (front.map (·.1)).Nodup := by
      rw [List.map_append] at hnodup
      exact hnodup.of_append_left
    have hdeclared :=
      declaredColumns_eq_error { name := tableName, schema } hfront hbefore hfound
    rw [ofBound, htableName, ok_bind, hschema, ok_bind, hread, ok_bind, hdeclared]
    rfl

end Hinges

end MigrationScript
