import MigrationScript.Proofs.Builder.Declared

/-!
# The schema of a table

The schema is set in all parts at once, and every later part takes it over. So it does not matter
when it is set, and a declaration can be read with the schema in front.
-/

namespace MigrationScript

namespace TableCall

variable {α β : Type}

def isSchema : TableCall α → Bool
  | .schema _ => true
  | _ => false

/-- The calls that do not set the schema. -/
def withoutSchema (calls : List (TableCall α)) : List (TableCall α) :=
  calls.filter (!·.isSchema)

/-- The calls that do not set the schema behind the last one that sets it, if there is one. -/
def schemaFirst (calls : List (TableCall α)) : List (TableCall α) :=
  (calls.filterMap schema?).getLast?.toList.map .schema ++ withoutSchema calls

/-- The call with its columns, of which it gives the places. -/
def among (columns : List α) (call : TableCall Nat) : TableCall α :=
  call.select (·.filterMap (columns[·]?))

/-- The name of the column that the call declares. -/
def columnName? : TableCall α → Option String
  | .column name _ _ => some name
  | _ => none

end TableCall

open TableCall

namespace ColumnHandle

/-- The column that a handle selects, whatever the schema of its table was. -/
def column (handle : ColumnHandle) : String × String :=
  (handle.table, handle.name)

end ColumnHandle

/-- A table that is being declared, and the handles of the columns that can be selected in it. -/
structure Declaration where
  table : Table
  handles : List ColumnHandle

namespace Declaration

/-- A call selects columns by the places of their handles. Behind a call that declares a column the
handle of this column is built. -/
def call (declaration : Declaration) (call : TableCall Nat) : Declaration :=
  let table : Table :=
    (call.among declaration.handles).steps.foldl Table.step declaration.table
  match call with
  | .column _ _ _ => ⟨table, declaration.handles ++ table.handle?.toList⟩
  | _ => ⟨table, declaration.handles⟩

end Declaration

/-- A table declared from the start, where there may be handles of the columns of other tables. -/
def declare (name : String) (handles : List ColumnHandle) (calls : List (TableCall Nat)) :
    Declaration :=
  calls.foldl Declaration.call ⟨{ name }, handles⟩

/-! ### Calls without their schemas -/

namespace TableCall

variable {α β : Type} (calls : List (TableCall α))

/-- A part that is not the schema is found without the calls that set the schema. -/
theorem filterMap_withoutSchema {part : TableCall α → Option β}
    (h : ∀ name, part (.schema name) = none) :
    (withoutSchema calls).filterMap part = calls.filterMap part := by
  rw [withoutSchema, List.filterMap_filter]
  congr 1
  funext call
  cases call with
  | schema name => exact (h name).symm
  | _ => rfl

theorem filterMap_schemaFirst {part : TableCall α → Option β}
    (h : ∀ name, part (.schema name) = none) :
    (schemaFirst calls).filterMap part = calls.filterMap part := by
  rw [schemaFirst, List.filterMap_append, filterMap_withoutSchema calls h]
  cases (calls.filterMap schema?).getLast? <;> simp [h]

theorem schema_withoutSchema : (withoutSchema calls).filterMap schema? = [] := by
  rw [List.filterMap_eq_nil_iff]
  intro call hcall
  obtain ⟨-, hschema⟩ := List.mem_filter.mp hcall
  cases call with
  | schema name => cases hschema
  | _ => rfl

theorem schema_schemaFirst :
    ((schemaFirst calls).filterMap schema?).getLast? = (calls.filterMap schema?).getLast? := by
  rw [schemaFirst, List.filterMap_append, schema_withoutSchema]
  cases (calls.filterMap schema?).getLast? <;> rfl

end TableCall

namespace Table

variable (name : String) (calls : List (TableCall String))

theorem ofCalls_schemaFirst : ofCalls name (schemaFirst calls) = ofCalls name calls := by
  simp only [ofCalls, schema_schemaFirst]
  congr 1
  case e_primaryKey =>
    rw [filterMap_schemaFirst calls fun _ => rfl]
  all_goals exact filterMap_schemaFirst calls fun _ => rfl

theorem ofCalls_withoutSchema :
    ofCalls name (withoutSchema calls) = (ofCalls name calls).setSchema none := by
  rw [setSchema_ofCalls, ofCalls, schema_withoutSchema]
  dsimp only [List.getLast?_nil]
  congr 1
  case e_primaryKey =>
    rw [filterMap_withoutSchema calls fun _ => rfl]
  all_goals exact filterMap_withoutSchema calls fun _ => rfl

end Table

/-! ### Columns by their names -/

namespace TableCall

/-- The calls with the names of their columns: those there are at first, and those that the calls in
front declare. -/
def byName : List String → List (TableCall Nat) → List (TableCall String)
  | _, [] => []
  | names, call :: rest =>
    call.among names :: byName (names ++ call.columnName?.toList) rest

theorem named_among (handles : List ColumnHandle) (call : TableCall Nat) :
    (call.among handles).named = call.among (handles.map (·.name)) := by
  cases call <;> simp [named, among, select, List.map_filterMap, List.getElem?_map]

variable (names : List String) (calls : List (TableCall Nat))

/-- A call that sets the schema declares no column. -/
theorem byName_schema (name : String) :
    byName names (.schema name :: calls) = .schema name :: byName names calls := by
  change _ :: byName (names ++ []) calls = _
  rw [List.append_nil]
  rfl

theorem byName_withoutSchema :
    byName names (withoutSchema calls) = withoutSchema (byName names calls) := by
  induction calls generalizing names with
  | nil => rfl
  | cons call rest ih =>
    cases call with
    | schema name =>
      rw [byName_schema]
      exact ih names
    | _ => exact congrArg (_ :: ·) (ih _)

theorem schema_byName : (byName names calls).filterMap schema? = calls.filterMap schema? := by
  induction calls generalizing names with
  | nil => rfl
  | cons call rest ih =>
    cases call with
    | schema name => exact congrArg (name :: ·) (ih _)
    | _ => exact ih _

theorem byName_schemaFirst :
    byName names (schemaFirst calls) = schemaFirst (byName names calls) := by
  unfold schemaFirst
  rw [schema_byName, ← byName_withoutSchema]
  cases (calls.filterMap schema?).getLast? with
  | none => rfl
  | some name => exact byName_schema names (withoutSchema calls) name

end TableCall

/-! ### Declarations told by their names -/

namespace Declaration

/-- The table is what the calls describe, and the handles select the columns. -/
structure Tells (declaration : Declaration) (name : String) (calls : List (TableCall String))
    (columns : List (String × String)) : Prop where
  table_eq : declaration.table = Table.ofCalls name calls
  handles_eq : declaration.handles.map (·.column) = columns

variable {declaration : Declaration} {name : String} {done : List (TableCall String)}
  {columns : List (String × String)}

theorem Tells.call (h : declaration.Tells name done columns) (call : TableCall Nat) :
    (declaration.call call).Tells name (done ++ [call.among (columns.map (·.2))])
      (columns ++ call.columnName?.toList.map (name, ·)) := by
  obtain ⟨htable, rfl⟩ := h
  have hsteps : (call.among declaration.handles).steps.foldl Table.step declaration.table =
      Table.ofCalls name
        (done ++ [call.among ((declaration.handles.map (·.column)).map (·.2))]) := by
    rw [htable, Table.foldl_steps, named_among, List.map_map]
    rfl
  cases call with
  | column column type setters =>
    refine ⟨hsteps, ?_⟩
    change (declaration.handles ++ (Table.handle? _).toList).map (·.column) = _
    rw [hsteps, List.map_append]
    simp [Table.ofCalls, Table.handle?, among, select, column?, columnName?, Column.recorded,
      ColumnHandle.column]
  | _ => exact ⟨hsteps, (List.append_nil _).symm⟩

theorem Tells.foldl (h : declaration.Tells name done columns) (calls : List (TableCall Nat)) :
    (calls.foldl Declaration.call declaration).Tells name
      (done ++ byName (columns.map (·.2)) calls)
      (columns ++ (calls.filterMap columnName?).map (name, ·)) := by
  induction calls generalizing declaration done columns with
  | nil => simpa [byName] using h
  | cons call rest ih =>
    have hrest := ih (h.call call)
    cases hcolumn : call.columnName? <;>
      simpa [byName, hcolumn, List.filterMap_cons, Function.comp_def] using hrest

theorem tells_declare (name : String) (handles : List ColumnHandle) (calls : List (TableCall Nat)) :
    (declare name handles calls).Tells name (byName (handles.map (·.name)) calls)
      (handles.map (·.column) ++ (calls.filterMap columnName?).map (name, ·)) := by
  have hstart : Tells ⟨{ name }, handles⟩ name [] (handles.map (·.column)) := ⟨rfl, rfl⟩
  have hcalls := hstart.foldl calls
  rwa [List.nil_append, List.map_map] at hcalls

end Declaration

/-- The column that was declared last stays the last. -/
theorem Table.handle_setSchema (table : Table) (schema : String) :
    (table.setSchema (some schema)).handle? =
      table.handle?.map ({ · with schema := some schema }) := by
  unfold handle? setSchema
  rw [List.getLast?_map, Option.map_map, Option.map_map]
  rfl

/-- Handles of the same columns serve alike in every call. -/
theorem TableCall.foldl_among {first second : List ColumnHandle}
    (h : first.map (·.column) = second.map (·.column)) (call : TableCall Nat) (table : Table) :
    (call.among first).steps.foldl Table.step table =
      (call.among second).steps.foldl Table.step table := by
  have hnames : first.map (·.name) = second.map (·.name) := by
    have hsecond := congrArg (List.map Prod.snd) h
    rwa [List.map_map, List.map_map] at hsecond
  have hchosen (places : List Nat) : (places.filterMap (first[·]?)).map (·.name) =
      (places.filterMap (second[·]?)).map (·.name) := by
    rw [List.map_filterMap, List.map_filterMap]
    simp only [← List.getElem?_map, hnames]
  cases call <;> simp [among, select, steps, Table.step, Table.newKey, hchosen]

/-- Setting the schema commutes with all else in a declaration: the table is the same where of the
calls that set the schema only the last is left and comes first, and where none is left it is the
table without its schemas. The handles select the same columns in all three. A handle that is built
before the schema is set differs from one built behind that in its schema, and serves alike in every
call on every table. -/
theorem schema_commutes (name : String) (handles : List ColumnHandle)
    (calls : List (TableCall Nat)) :
    (declare name handles calls).table = (declare name handles (schemaFirst calls)).table ∧
    (declare name handles calls).table.setSchema none =
      (declare name handles (withoutSchema calls)).table ∧
    (declare name handles calls).handles.map (·.column) =
      (declare name handles (schemaFirst calls)).handles.map (·.column) ∧
    (declare name handles calls).handles.map (·.column) =
      (declare name handles (withoutSchema calls)).handles.map (·.column) ∧
    ∀ schema : String,
      ((declare name handles calls).call (.schema schema)).table.handle? =
        (declare name handles calls).table.handle?.map ({ · with schema := some schema }) ∧
      ∀ (front back : List ColumnHandle) (handle : ColumnHandle) (call : TableCall Nat)
        (table : Table),
        (call.among (front ++ handle :: back)).steps.foldl Table.step table =
          (call.among (front ++ { handle with schema := some schema } :: back)).steps.foldl
            Table.step table := by
  have htells := Declaration.tells_declare name handles calls
  have hfirst := Declaration.tells_declare name handles (schemaFirst calls)
  have hnone := Declaration.tells_declare name handles (withoutSchema calls)
  refine ⟨?_, ?_, ?_, ?_, fun schema => ⟨?_, ?_⟩⟩
  · rw [htells.table_eq, hfirst.table_eq, byName_schemaFirst, Table.ofCalls_schemaFirst]
  · rw [htells.table_eq, hnone.table_eq, byName_withoutSchema, Table.ofCalls_withoutSchema]
  · rw [htells.handles_eq, hfirst.handles_eq, filterMap_schemaFirst calls fun _ => rfl]
  · rw [htells.handles_eq, hnone.handles_eq, filterMap_withoutSchema calls fun _ => rfl]
  · exact Table.handle_setSchema _ schema
  · intro front back handle call table
    apply foldl_among
    simp [ColumnHandle.column]

end MigrationScript
