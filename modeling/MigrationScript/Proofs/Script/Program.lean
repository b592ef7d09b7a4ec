import MigrationScript.Proofs.Script.Arguments
import MigrationScript.Proofs.Script.Lines
import MigrationScript.Proofs.Tree.Parse

/-!
# Written scripts and their trees

Each written operation has a statement, given here as a tree. The lines of the operation spell the
tree, whatever the layout.
-/

namespace MigrationScript

open Lexer WrittenArgument

theorem Kind.isValid_parameter {kind : Kind} :
    ∀ name ∈ kind.parameters.map (·.name), Identifier.isValid name = true := by
  cases kind <;> decide

theorem Kind.isValid_method (kind : Kind) : Identifier.isValid kind.method = true := by
  cases kind <;> decide

theorem Kind.method_shape (kind : Kind) : kind.shape.method = kind.method := by
  cases kind <;> rfl

/-! ### The trees of declarations -/

/-- The arguments of the declaration of a column. -/
def Column.declarationArguments (column : Column) : List WrittenArgument :=
  (if Identifier.derive column.name = column.name then [] else string "name" column.name) ++
    string "type" column.type ++ column.options

def Column.declarationCall (column : Column) : Call :=
  ⟨"table", "Column", trees .named column.declarationArguments, default⟩

/-- The member by which a table declares a column. -/
def Column.tree (column : Column) : Member :=
  .named (Identifier.derive column.name) (.call column.declarationCall) default

/-- The statement by which a table declares a key. -/
def Key.tree (method : String) (key : Key) : Call :=
  ⟨"table", method,
    [⟨none, .constant (.string key.name) default, default⟩,
      ⟨none, (WrittenValue.selector key.columns).tree, default⟩], default⟩

/-- The arguments of the declaration of a foreign key. -/
def ForeignKey.declarationArguments (key : ForeignKey) : List WrittenArgument :=
  string "name" key.name ++ ⟨"columns", .selector key.columns⟩ :: key.reference

def ForeignKey.tree (key : ForeignKey) : Call :=
  ⟨"table", "ForeignKey", trees .named key.declarationArguments, default⟩

namespace Table

/-- The arguments in front of the columns of a table. -/
def headArguments (table : Table) : List WrittenArgument :=
  string "name" table.name ++ optionalString "schema" table.schema

/-- The function that declares the columns. -/
def columnsTree (table : Table) : Expr :=
  .function "table" (.object (table.columns.map (·.tree)) default) default

def constraints (table : Table) : List Call :=
  table.primaryKey.toList.map (·.tree "PrimaryKey") ++ table.foreignKeys.map (·.tree) ++
    table.uniqueConstraints.map (·.tree "Unique")

/-- The function that declares the constraints. -/
def constraintsTree (table : Table) : Expr :=
  .block "table" table.constraints default

def trees (table : Table) : List Argument :=
  table.headArguments.map (·.tree) ++
    [⟨some "columns", table.columnsTree, default⟩,
      ⟨some "constraints", table.constraintsTree, default⟩]

end Table

/-- The statement of an operation. -/
def Operation.tree (builder : String) (operation : Operation) : Call :=
  match operation with
  | .createTable table => ⟨builder, Kind.createTable.method, table.trees, default⟩
  | operation =>
    ⟨builder, operation.kind.method,
      WrittenArgument.trees operation.kind.shape.naming operation.writtenArguments, default⟩

/-! ### Declarations -/

theorem isValid_table : Identifier.isValid "table" = true := by
  decide

theorem Column.fits_declaration (column : Column) :
    Fits column.declarationArguments Parameter.declaredColumn := by
  have hname : Fits
      (if Identifier.derive column.name = column.name then [] else string "name" column.name)
      [.optional "name"] := by
    split
    · exact .omitted .nil
    · exact fits_string _ _ _
  exact (hname.append (fits_string _ _ true)).append column.fits_options

theorem ForeignKey.fits_declaration (key : ForeignKey) :
    Fits key.declarationArguments Parameter.declaredForeignKey :=
  (fits_string _ _ true).append (.given rfl key.fits_reference)

theorem Column.writes_declaration (column : Column) :
    Writes column.declaration (MemberForm ExprForm) column.tree := by
  have hnames : ∀ name ∈ Parameter.declaredColumn.map (·.name), Identifier.isValid name = true := by
    decide
  have harguments : column.declarationArguments ≠ [] := by
    unfold declarationArguments
    exact List.append_ne_nil_of_left_ne_nil
      (List.append_ne_nil_of_right_ne_nil _ (List.cons_ne_nil _ _)) _
  have hwrites : ∀ argument ∈ column.declarationArguments,
      Writes argument.text (ArgumentForm ExprForm) argument.tree :=
    fun argument hargument =>
      writes_text (column.fits_declaration.isValid hnames argument hargument)
  obtain ⟨kinds, hspells, hseparated⟩ := writes_joined hwrites harguments
  have hclose := Spells.nil.mark (c := ')') rfl (by decide)
  have hbody := hspells.append hclose (apart_cons (by decide) (by decide))
  have hcolumn : Identifier.isValid "Column" = true := by decide
  have hcall := (hbody.call isValid_table hcolumn).blank (c := ' ') rfl
  have hequals := (hcall.equals (by decide)).blank (c := ' ') rfl
  have hmember := (spells_render (Identifier.isWord_derive column.name)).append hequals
    (apart_of_isBlank rfl)
  have hform : ExprForm (callKinds "table" "Column" kinds) (.call column.declarationCall) :=
    .call (.arguments hseparated)
  have hhead : " = table.Column(".toList =
      ' ' :: '=' :: ' ' :: ("table".toList ++ '.' :: ("Column".toList ++ ['('])) := rfl
  have htext : column.declaration = columnIdentifier column.name ++ (" = table.Column(".toList ++
      (Literal.joined (column.declarationArguments.map text) ++ [')'])) := by
    rw [← List.append_assoc, ← List.append_assoc]
    rfl
  refine ⟨_, ?_, .named hform⟩
  rw [htext, hhead]
  simp only [callKinds, List.append_assoc, List.cons_append, List.nil_append] at hmember ⊢
  exact hmember

/-- The declaration of a key with a name, and its columns by a function. -/
theorem Key.writes_line {method : String} (key : Key)
    (hmethod : Identifier.isValid method = true) :
    WritesLines [key.line method] (StatementForm ExprForm) (key.tree method) := by
  obtain ⟨nameKinds, hname, hnameForm⟩ := writes_string key.name
  obtain ⟨kinds, hspells, hform⟩ := (WrittenValue.selector key.columns).writes
  have hselector := hspells.append spells_close apart_close
  have hcomma := (hselector.blank (c := ' ') rfl).mark (c := ',') rfl (by decide)
  have harguments := hname.append hcomma (apart_cons (by decide) (by decide))
  have hcall := harguments.call isValid_table hmethod
  have hseparated :
      Separated (ArgumentForm ExprForm) (nameKinds ++ .punctuation .comma :: kinds) _ :=
    .cons (.positional hnameForm) (.last (.positional hform))
  have hhead : "table.".toList = "table".toList ++ ['.'] := rfl
  have hline : Spells (key.declaration method)
      (callKinds "table" method (nameKinds ++ .punctuation .comma :: kinds) ++
        [.punctuation .semicolon]) := by
    unfold Key.declaration
    rw [hhead]
    simp only [callKinds, List.append_assoc, List.cons_append, List.nil_append] at hcall ⊢
    exact hcall
  exact ⟨_, .single 0 hline, .call (.arguments hseparated)⟩

theorem ForeignKey.writes_lines (key : ForeignKey) :
    WritesLines key.lines (StatementForm ExprForm) key.tree := by
  have hnames : ∀ name ∈ Parameter.declaredForeignKey.map (·.name),
      Identifier.isValid name = true := by decide
  exact callLines_writes isValid_table (by decide) (key.fits_declaration.isValid hnames)
    (List.cons_ne_nil _ _)

/-! ### Tables -/

theorem Repeated.append {α : Type} {item : Form α} {kinds others : List TokenKind}
    {first second : List α} (hfirst : Repeated item kinds first)
    (hsecond : Repeated item others second) :
    Repeated item (kinds ++ others) (first ++ second) := by
  induction hfirst with
  | nil => exact hsecond
  | cons hitem _ ih =>
    rw [List.append_assoc]
    exact .cons hitem ih

section Repeated

variable {α β : Type} {form : Form β} {lines : α → List Line} {tree : α → β} {items : List α}

theorem writesLines_flatMap (hitems : ∀ item ∈ items, WritesLines (lines item) form (tree item)) :
    WritesLines (items.flatMap lines) (Repeated form) (items.map tree) := by
  induction items with
  | nil => exact ⟨[], .nil, .nil⟩
  | cons first rest ih =>
    obtain ⟨kinds, hlines, hform⟩ := hitems first List.mem_cons_self
    obtain ⟨others, hothers, hrepeated⟩ :=
      ih fun item hitem => hitems item (List.mem_cons_of_mem _ hitem)
    exact ⟨_, hlines.append hothers, .cons hform hrepeated⟩

theorem WritesLines.append {first second : List Line} {values others : List β}
    (hfirst : WritesLines first (Repeated form) values)
    (hsecond : WritesLines second (Repeated form) others) :
    WritesLines (first ++ second) (Repeated form) (values ++ others) := by
  obtain ⟨kinds, hlines, hform⟩ := hfirst
  obtain ⟨rest, hrest, hothers⟩ := hsecond
  exact ⟨_, hlines.append hrest, hform.append hothers⟩

end Repeated

namespace Table

theorem writes_columnLines (table : Table) :
    WritesLines table.columnLines (Listed (MemberForm ExprForm)) (table.columns.map (·.tree)) := by
  by_cases hne : table.columns = []
  · unfold columnLines
    rw [hne]
    exact ⟨[], .nil, .nil⟩
  · obtain ⟨kinds, hseparated, hlines⟩ := spellsLines_terminated 0
      (fun column _ => column.writes_declaration) hne Spells.nil apart_nil
    rw [List.append_nil] at hlines
    exact ⟨kinds, hlines, .separated hseparated⟩

theorem writes_constraintLines (table : Table) :
    WritesLines table.constraintLines (Repeated (StatementForm ExprForm)) table.constraints := by
  have hprimaryKey : Identifier.isValid "PrimaryKey" = true := by decide
  have hunique : Identifier.isValid "Unique" = true := by decide
  have hkeys := writesLines_flatMap fun key (_ : key ∈ table.primaryKey.toList) =>
    key.writes_line hprimaryKey
  have hforeignKeys := writesLines_flatMap fun key (_ : key ∈ table.foreignKeys) =>
    key.writes_lines
  have huniques := writesLines_flatMap fun key (_ : key ∈ table.uniqueConstraints) =>
    key.writes_line hunique
  unfold constraintLines constraints
  rw [List.map_eq_flatMap (f := fun key : Key => key.line "PrimaryKey"),
    List.map_eq_flatMap (f := fun key : Key => key.line "Unique")]
  exact (hkeys.append hforeignKeys).append huniques

/-- The lines between the names of a table and its columns. -/
theorem spellsLines_columns :
    SpellsLines [⟨0, "columns: table => new".toList⟩, ⟨0, ['\x7b']⟩]
      [.identifier "columns", .punctuation .colon, .identifier "table", .punctuation .arrow,
        .keyword .new, .punctuation .leftBrace] := by
  have hcolumns : Identifier.isValid "columns" = true := by decide
  have hnew : Spells "new".toList [.keyword .new] := spells_word (by decide)
  have hfunction := (hnew.blank (c := ' ') rfl).function isValid_table
  have hargument := (hfunction.blank (c := ' ') rfl).named (c := ':') hcolumns rfl (by decide)
    (by decide)
  have hopen := Spells.nil.mark (c := '\x7b') rfl (by decide)
  have htext : "columns: table => new".toList = "columns".toList ++
      ':' :: ' ' :: ("table".toList ++ ' ' :: '=' :: '>' :: ' ' :: "new".toList) := rfl
  rw [htext]
  exact (SpellsLines.single 0 hargument).append (.single 0 hopen)

/-- The lines between the columns of a table and its constraints. -/
theorem spellsLines_constraints :
    SpellsLines [⟨0, ['\x7d', ',']⟩, ⟨0, "constraints: table =>".toList⟩, ⟨0, ['\x7b']⟩]
      [.punctuation .rightBrace, .punctuation .comma, .identifier "constraints",
        .punctuation .colon, .identifier "table", .punctuation .arrow,
        .punctuation .leftBrace] := by
  have hconstraints : Identifier.isValid "constraints" = true := by decide
  have hclose := (Spells.nil.mark (c := ',') rfl (by decide)).mark (c := '\x7d') rfl (by decide)
  have hfunction := Spells.nil.function isValid_table
  have hargument := (hfunction.blank (c := ' ') rfl).named (c := ':') hconstraints rfl (by decide)
    (by decide)
  have hopen := Spells.nil.mark (c := '\x7b') rfl (by decide)
  have htext : "constraints: table =>".toList = "constraints".toList ++
      ':' :: ' ' :: ("table".toList ++ [' ', '=', '>']) := rfl
  rw [htext]
  exact (SpellsLines.single 0 hclose).append
    ((SpellsLines.single 0 hargument).append (.single 0 hopen))

theorem spellsLines_end :
    SpellsLines [⟨0, "\x7d);".toList⟩]
      [.punctuation .rightBrace, .punctuation .rightParen, .punctuation .semicolon] := by
  exact .single 0 (spells_close.mark (c := '\x7d') rfl (by decide))

theorem fits_headArguments (table : Table) :
    Fits table.headArguments [.required "name", .optional "schema"] :=
  (fits_string _ _ true).append (fits_optional _ _ _)

/-- The lines of a table are read as a call with two functions behind its names. -/
theorem writes_lines {builder : String} (table : Table)
    (hbuilder : Identifier.isValid builder = true) :
    WritesLines (table.lines builder) (StatementForm ExprForm)
      ⟨builder, Kind.createTable.method, table.trees, default⟩ := by
  have hnames : ∀ argument ∈ table.headArguments, Writes argument.text (ArgumentForm ExprForm)
      argument.tree := by
    intro argument hargument
    exact writes_text (table.fits_headArguments.isValid (by decide) argument hargument)
  obtain ⟨headKinds, hhead, hargument⟩ := spellsLines_commas 0 hnames
  obtain ⟨columnKinds, hcolumns, hmembers⟩ := table.writes_columnLines
  obtain ⟨constraintKinds, hconstraints, hstatements⟩ := table.writes_constraintLines
  have hcolumnsForm : ArgumentForm ExprForm
      (.identifier "columns" :: .punctuation .colon ::
        functionKinds "table" (objectKinds columnKinds))
      ⟨some "columns", table.columnsTree, default⟩ := .named (.function (.object hmembers))
  have hconstraintsForm : ArgumentForm ExprForm
      (.identifier "constraints" :: .punctuation .colon :: blockKinds "table" constraintKinds)
      ⟨some "constraints", table.constraintsTree, default⟩ := .named (.block hstatements)
  have harguments := hargument (.cons hcolumnsForm (.last hconstraintsForm))
  have hcall := SpellsLines.single 0
    (Spells.nil.call hbuilder Kind.createTable.isValid_method)
  have hbody := (((hhead.append spellsLines_columns).append hcolumns.indent).append
    (spellsLines_constraints.append hconstraints.indent)).append spellsLines_end
  have hlines := hcall.append hbody.indent
  refine ⟨_, ?_, .call (.arguments harguments)⟩
  unfold lines body headArguments at *
  dsimp only
  rw [List.map_map]
  simp only [callKinds, objectKinds, functionKinds, blockKinds, List.append_assoc, List.cons_append,
    List.nil_append] at hlines ⊢
  exact hlines

end Table

/-! ### Scripts -/

namespace Operation

/-- The first argument of an operation is for the first parameter of its method. -/
theorem exists_writtenArguments {operation : Operation} (h : operation.kind ≠ .createTable) :
    ∃ parameter parameters value rest, operation.kind.parameters = parameter :: parameters ∧
      operation.writtenArguments = ⟨parameter.name, value⟩ :: rest := by
  cases operation with
  | createTable table => exact absurd rfl h
  | _ => exact ⟨_, _, _, _, rfl, rfl⟩

theorem lines_eq_callLines {builder : String} {operation : Operation}
    (h : operation.kind ≠ .createTable) : operation.lines builder =
      callLines builder operation.kind.shape operation.writtenArguments := by
  cases operation with
  | createTable table => exact absurd rfl h
  | _ => rfl

theorem tree_eq_trees {builder : String} {operation : Operation}
    (h : operation.kind ≠ .createTable) : operation.tree builder =
      ⟨builder, operation.kind.method,
        WrittenArgument.trees operation.kind.shape.naming operation.writtenArguments, default⟩ := by
  cases operation with
  | createTable table => exact absurd rfl h
  | _ => rfl

theorem writes_lines {builder : String} (operation : Operation)
    (hbuilder : Identifier.isValid builder = true) :
    WritesLines (operation.lines builder) (StatementForm ExprForm) (operation.tree builder) := by
  by_cases htable : operation.kind = .createTable
  · cases operation <;> cases htable
    exact Table.writes_lines _ hbuilder
  · obtain ⟨_, _, _, _, _, hwritten⟩ := exists_writtenArguments htable
    have hmethod : Identifier.isValid operation.kind.shape.method = true := by
      rw [Kind.method_shape]
      exact operation.kind.isValid_method
    have hnames := (fits_parameters htable).isValid Kind.isValid_parameter
    have hne : operation.writtenArguments ≠ [] := by
      rw [hwritten]
      exact List.cons_ne_nil _ _
    rw [lines_eq_callLines htable, tree_eq_trees htable, ← Kind.method_shape]
    exact callLines_writes hbuilder hmethod hnames hne

end Operation

theorem sourceKinds_ofList (text : List Char) : sourceKinds (.ofList text) = kindsOf text := by
  rw [sourceKinds_eq, Tokenized.ofSource, String.toList_ofList]
  rfl

/-- In every layout the tokens of a script spell the statements of its operations. -/
theorem programForm_render {builder : String} (hbuilder : Identifier.isValid builder = true)
    (operations : List Operation) :
    ∃ kinds, (∀ layout, sourceKinds (.ofList (render layout builder operations)) = kinds) ∧
      ProgramForm kinds (operations.map (·.tree builder)) := by
  obtain ⟨kinds, hlines, hform⟩ := writesLines_flatMap
    fun operation (_ : operation ∈ operations) => operation.writes_lines hbuilder
  refine ⟨kinds, fun layout => ?_, hform⟩
  have hrender := hlines.kindsOf_render layout []
  rw [List.append_nil, kindsOf_nil, List.append_nil] at hrender
  rw [sourceKinds_ofList, render_eq]
  exact hrender

theorem parse_render {builder : String} (hbuilder : Identifier.isValid builder = true)
    (layout : Layout) (operations : List Operation) :
    ∃ statements, parse (.ofList (render layout builder operations)) = .ok statements ∧
      statements.map Call.eraseSpans = operations.map (·.tree builder) := by
  obtain ⟨kinds, hkinds, hform⟩ := programForm_render hbuilder operations
  rw [← hkinds layout] at hform
  exact exists_parse_of_programForm hform

end MigrationScript
