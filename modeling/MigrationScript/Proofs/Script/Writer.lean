import MigrationScript.Script.Generate

/-!
# What the writer leaves behind

The lines of an operation are told from its parts alone, each with its level inside the operation.
From any level the operation is written on these lines, and the writer comes back to the level
without having gone below it.
-/

namespace MigrationScript

open WrittenArgument

/-! ### Lines of operations -/

def Line.indent (line : Line) : Line :=
  { line with level := line.level + 1 }

def callLines (target : String) (shape : CallShape) (arguments : List WrittenArgument) :
    List Line :=
  let head := target.toList ++ '.' :: shape.method.toList ++ ['(']
  let texts := texts shape.naming arguments
  match shape.arrangement with
  | .inline => [⟨0, head ++ Literal.joined texts ++ ");".toList⟩]
  | .block => ⟨0, head⟩ :: (terminated [','] ");".toList texts).map fun text => ⟨1, text⟩

def Key.line (method : String) (key : Key) : Line :=
  ⟨0, key.declaration method⟩

def ForeignKey.lines (key : ForeignKey) : List Line :=
  callLines "table" ⟨"ForeignKey", .block, .named⟩
    (string "name" key.name ++ ⟨"columns", .selector key.columns⟩ :: key.reference)

namespace Table

def columnLines (table : Table) : List Line :=
  (terminated [','] [] (table.columns.map (·.declaration))).map fun text => ⟨0, text⟩

def constraintLines (table : Table) : List Line :=
  table.primaryKey.toList.map (·.line "PrimaryKey") ++
    table.foreignKeys.flatMap (·.lines) ++
    table.uniqueConstraints.map (·.line "Unique")

/-- The lines between the head of the call and its end. -/
def body (table : Table) : List Line :=
  let line (text : List Char) : Line := ⟨0, text⟩
  let head := (string "name" table.name ++ optionalString "schema" table.schema).map (·.text)
  head.map (fun text => line (text ++ [','])) ++
    [line "columns: table => new".toList, line ['\x7b']] ++
    table.columnLines.map (·.indent) ++
    [line ['\x7d', ','], line "constraints: table =>".toList, line ['\x7b']] ++
    table.constraintLines.map (·.indent) ++
    [line "\x7d);".toList]

def lines (builder : String) (table : Table) : List Line :=
  ⟨0, builder.toList ++ '.' :: Kind.createTable.method.toList ++ ['(']⟩ ::
    table.body.map (·.indent)

end Table

def Operation.lines (builder : String) (operation : Operation) : List Line :=
  match operation with
  | .createTable table => table.lines builder
  | operation => callLines builder operation.kind.shape operation.writtenArguments

/-! ### Steps that keep the level -/

theorem Writer.run_append (writer : Writer) (first second : List Step) :
    writer.run (first ++ second) = (writer.run first).run second :=
  List.foldl_append

/-- The line at a level that is higher by another. -/
def Line.raise (level : Nat) (line : Line) : Line :=
  { line with level := level + line.level }

/-- From any level the steps write the lines, raised by the level, and lead back to it; in between
they take back only levels that they have added. -/
structure Prints (steps : List Step) (lines : List Line) : Prop where
  run_eq (writer : Writer) :
    writer.run steps = ⟨writer.level, writer.lines ++ lines.map (·.raise writer.level)⟩
  lt_level (writer : Writer) (before after : List Step) :
    steps = before ++ .dedent :: after → writer.level < (writer.run before).level

section Prints

variable {steps first second : List Step} {lines more : List Line}

theorem prints_nil : Prints [] [] where
  run_eq writer := by
    rw [List.map_nil, List.append_nil]
    rfl
  lt_level _ _ _ h := absurd (List.append_eq_nil_iff.mp h.symm).2 (List.cons_ne_nil _ _)

theorem prints_line (text : List Char) : Prints [.line text] [⟨0, text⟩] where
  run_eq _ := rfl
  lt_level writer before after h := by
    rcases before with - | ⟨step, before⟩
    · cases h
    · cases (List.append_eq_nil_iff.mp (List.cons.inj h).2.symm).2

theorem Prints.append (hfirst : Prints first lines) (hsecond : Prints second more) :
    Prints (first ++ second) (lines ++ more) where
  run_eq writer := by
    rw [Writer.run_append, hfirst.run_eq, hsecond.run_eq, List.map_append, List.append_assoc]
  lt_level writer before after h := by
    rcases List.append_eq_append_iff.mp h with ⟨rest, rfl, hrest⟩ | ⟨rest, hrest, hafter⟩
    · have hlevel := hsecond.lt_level (writer.run first) rest after hrest
      rw [hfirst.run_eq] at hlevel
      rwa [Writer.run_append, hfirst.run_eq]
    · rcases rest with - | ⟨step, rest⟩
      · exact absurd (hsecond.lt_level writer [] after hafter.symm) (Nat.lt_irrefl _)
      · obtain ⟨rfl, -⟩ := List.cons.inj hafter
        exact hfirst.lt_level writer before rest hrest

/-- Steps one level further in. -/
theorem Prints.wrapped (h : Prints steps lines) :
    Prints ([.indent] ++ steps ++ [.dedent]) (lines.map (·.indent)) where
  run_eq writer := by
    have hraise (line : Line) : line.indent.raise writer.level = line.raise (writer.level + 1) := by
      rw [Line.raise, Line.raise, Line.indent, Nat.add_comm line.level, Nat.add_assoc]
    have hindent : writer.run [.indent] = ⟨writer.level + 1, writer.lines⟩ := rfl
    rw [Writer.run_append, Writer.run_append, hindent, h.run_eq, List.map_map]
    simp only [Function.comp_def, hraise]
    rfl
  lt_level writer before after heq := by
    rcases before with - | ⟨step, before⟩
    · cases heq
    simp only [List.cons_append, List.nil_append, List.cons.injEq] at heq
    obtain ⟨rfl, hrest⟩ := heq
    change writer.level < (Writer.run ⟨writer.level + 1, writer.lines⟩ before).level
    rcases List.eq_nil_or_concat after with rfl | ⟨inner, last, rfl⟩
    · rw [← List.append_cancel_right hrest, h.run_eq]
      exact Nat.lt_succ_self _
    · rw [List.concat_eq_append, ← List.cons_append, ← List.append_assoc] at hrest
      obtain ⟨hsteps, -⟩ := List.append_inj' hrest rfl
      exact Nat.lt_of_succ_lt (h.lt_level ⟨writer.level + 1, writer.lines⟩ before inner hsteps)

/-- Steps that write each text on a line. -/
theorem prints_texts (texts : List (List Char)) :
    Prints (texts.map .line) (texts.map fun text => ⟨0, text⟩) := by
  induction texts with
  | nil => exact prints_nil
  | cons first rest ih => exact (prints_line first).append ih

theorem prints_flatMap {α : Type} (items : List α) {steps : α → List Step} {lines : α → List Line}
    (h : ∀ item, Prints (steps item) (lines item)) :
    Prints (items.flatMap steps) (items.flatMap lines) := by
  induction items with
  | nil => exact prints_nil
  | cons first rest ih => exact (h first).append ih

theorem prints_map {α : Type} (items : List α) {step : α → Step} {line : α → Line}
    (h : ∀ item, Prints [step item] [line item]) : Prints (items.map step) (items.map line) := by
  rw [List.map_eq_flatMap, List.map_eq_flatMap]
  exact prints_flatMap items h

end Prints

/-! ### Operations -/

theorem prints_call (target : String) (shape : CallShape) (arguments : List WrittenArgument) :
    Prints (callSteps target shape arguments) (callLines target shape arguments) := by
  unfold callSteps callLines
  cases shape.arrangement with
  | inline => exact prints_line _
  | block =>
    have harguments :=
      (prints_texts (terminated [','] ");".toList (texts shape.naming arguments))).wrapped
    rw [List.map_map] at harguments
    exact (prints_line _).append harguments

namespace Table

theorem prints_constraints (table : Table) :
    Prints table.constraintSteps table.constraintLines := by
  have hkey (method : String) (key : Key) :
      Prints [.line (key.declaration method)] [key.line method] := prints_line _
  exact ((prints_map _ (hkey "PrimaryKey")).append
    (prints_flatMap _ fun _ => prints_call _ _ _)).append (prints_map _ (hkey "Unique"))

theorem prints (builder : String) (table : Table) :
    Prints (table.steps builder) (table.lines builder) := by
  have hhead := prints_map
    ((string "name" table.name ++ optionalString "schema" table.schema).map (·.text))
    fun text => prints_line (text ++ [','])
  have hcolumns := hhead.append ((prints_texts ["columns: table => new".toList, ['\x7b']]).append
    (prints_texts (terminated [','] [] (table.columns.map (·.declaration)))).wrapped)
  have hconstraints :=
    (prints_texts [['\x7d', ','], "constraints: table =>".toList, ['\x7b']]).append
      table.prints_constraints.wrapped
  have hbody := (hcolumns.append (hconstraints.append (prints_line "\x7d);".toList))).wrapped
  have hall := (prints_line
    (builder.toList ++ '.' :: Kind.createTable.method.toList ++ ['('])).append hbody
  unfold steps lines body columnSteps columnLines
  simp only [List.map_cons, List.map_nil, List.append_assoc, List.cons_append, List.nil_append]
    at hall ⊢
  exact hall

end Table

theorem Operation.prints (builder : String) (operation : Operation) :
    Prints (operation.steps builder) (operation.lines builder) := by
  unfold steps lines
  cases operation
  case createTable table => exact table.prints builder
  all_goals exact prints_call _ _ _

/-- The text of operations is that of their lines. -/
theorem render_eq (layout : Layout) (builder : String) (operations : List Operation) :
    render layout builder operations =
      (operations.flatMap (·.lines builder)).flatMap (·.render layout) := by
  have hlines : ∀ line : Line, line.raise 0 = line := fun line => by
    rw [Line.raise, Nat.zero_add]
  rw [render, (prints_flatMap operations fun operation => operation.prints builder).run_eq]
  simp only [Writer.text, hlines, List.map_id', List.nil_append]

end MigrationScript
