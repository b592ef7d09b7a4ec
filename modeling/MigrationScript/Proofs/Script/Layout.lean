import MigrationScript.Proofs.Script.Program

/-!
# What the layout can change

The lines of a script are made before it is laid out, and they hold no control characters: a line
break in a text is written by its escape. So a line ends where the layout ends it and nowhere else.
-/

namespace MigrationScript

open Lexer WrittenArgument

/-! ### Texts without control characters -/

/-- The text holds no control character, and so no line break. -/
def IsPlain (text : List Char) : Prop :=
  ∀ c ∈ text, isControl c = false

instance (text : List Char) : Decidable (IsPlain text) :=
  List.decidableBAll (fun c => isControl c = false) text

section Plain

variable {c : Char} {text first second : List Char}

theorem isPlain_nil : IsPlain [] :=
  fun _ hc => absurd hc List.not_mem_nil

theorem IsPlain.cons (hc : isControl c = false) (h : IsPlain text) : IsPlain (c :: text) :=
  List.forall_mem_cons.mpr ⟨hc, h⟩

theorem IsPlain.append (hfirst : IsPlain first) (hsecond : IsPlain second) :
    IsPlain (first ++ second) :=
  List.forall_mem_append.mpr ⟨hfirst, hsecond⟩

theorem IsPlain.of_sublist (h : IsPlain text) (hsub : first.Sublist text) : IsPlain first :=
  fun c hc => h c (hsub.subset hc)

theorem isPlain_flatMap {α : Type} {items : List α} {write : α → List Char}
    (h : ∀ item ∈ items, IsPlain (write item)) : IsPlain (items.flatMap write) := by
  intro c hc
  obtain ⟨item, hitem, hc⟩ := List.mem_flatMap.mp hc
  exact h item hitem c hc

/-- No letter and no number is a control character. -/
theorem isControl_of_isIdentifierPart (h : isIdentifierPart c = true) : isControl c = false := by
  have hnone : ∀ code < 160, isControl (Char.ofNat code) = true →
      isIdentifierPart (Char.ofNat code) = false := by
    decide +kernel
  cases hcontrol : isControl c with
  | false => rfl
  | true =>
    have hcode : c.toNat < 160 := by
      simp only [isControl, Bool.or_eq_true, Bool.and_eq_true, decide_eq_true_eq] at hcontrol
      omega
    have hpart := hnone c.toNat hcode (by rw [Char.ofNat_toNat, hcontrol])
    rw [Char.ofNat_toNat, h] at hpart
    exact hpart

theorem isPlain_of_all (h : text.all isIdentifierPart = true) : IsPlain text :=
  fun c hc => isControl_of_isIdentifierPart (List.all_eq_true.mp h c hc)

theorem isPlain_of_isWord (h : Identifier.isWord text = true) : IsPlain text :=
  isPlain_of_all (all_of_isWord h)

theorem isPlain_of_isValid {name : String} (h : Identifier.isValid name = true) :
    IsPlain name.toList :=
  isPlain_of_isWord (Identifier.isValid_iff.mp h).1

theorem isPlain_digits (h : text.all isDecimalDigit = true) : IsPlain text :=
  fun c hc => isControl_of_isIdentifierPart
    (isIdentifierPart_of_isDecimalDigit (List.all_eq_true.mp h c hc))

theorem isPlain_joined {texts : List (List Char)} (h : ∀ text ∈ texts, IsPlain text) :
    IsPlain (Literal.joined texts) := by
  match texts with
  | [] => exact isPlain_nil
  | [text] =>
    have hsingle : Literal.joined [text] = text := List.intercalate_singleton
    rw [hsingle]
    exact h text List.mem_cons_self
  | first :: second :: rest =>
    obtain ⟨hfirst, hrest⟩ := List.forall_mem_cons.mp h
    rw [joined_cons]
    exact hfirst.append (.cons rfl (.cons rfl (isPlain_joined hrest)))

theorem isPlain_terminated {between last : List Char} {texts : List (List Char)}
    (hbetween : IsPlain between) (hlast : IsPlain last) (h : ∀ text ∈ texts, IsPlain text) :
    ∀ text ∈ terminated between last texts, IsPlain text := by
  match texts with
  | [] => exact fun _ hmem => absurd hmem List.not_mem_nil
  | [text] =>
    refine List.forall_mem_singleton.mpr ?_
    exact (h text List.mem_cons_self).append hlast
  | first :: second :: rest =>
    obtain ⟨hfirst, hrest⟩ := List.forall_mem_cons.mp h
    rw [terminated]
    · exact List.forall_mem_cons.mpr
        ⟨hfirst.append hbetween, isPlain_terminated hbetween hlast hrest⟩
    · exact List.cons_ne_nil _ _

end Plain

/-! ### Values -/

/-- A control character is written by its code, and a line break by its escape. -/
theorem isPlain_char (c : Char) : IsPlain (Literal.char c) := by
  have hdigit : ∀ digit < 16, isControl (Nat.digitChar digit).toUpper = false := by
    decide
  have hescape {c : Char} (hc : isControl c = false) : IsPlain ['\\', c] :=
    .cons rfl (.cons hc isPlain_nil)
  unfold Literal.char
  split_ifs with hquote hbackslash hline hreturn htab hzero hcontrol
  · exact hescape rfl
  · exact hescape rfl
  · exact hescape rfl
  · exact hescape rfl
  · exact hescape rfl
  · exact hescape rfl
  · refine .cons rfl (.cons rfl fun digit hmem => ?_)
    simp only [hexDigits4, List.map_map, List.mem_map] at hmem
    obtain ⟨value, hvalue, rfl⟩ := hmem
    refine hdigit value ?_
    simp only [List.mem_cons, List.not_mem_nil, or_false] at hvalue
    omega
  · exact .cons (Bool.eq_false_iff.mpr hcontrol) isPlain_nil

theorem isPlain_string (text : String) : IsPlain (Literal.string text) :=
  (IsPlain.cons rfl (isPlain_flatMap fun c _ => isPlain_char c)).append (.cons rfl isPlain_nil)

theorem isPlain_integerText (value : Int) : IsPlain (integerText value) := by
  have hdigits := isPlain_digits (all_isDecimalDigit_toDigits value.natAbs)
  unfold integerText
  split
  · exact .cons rfl hdigits
  · exact hdigits

theorem isPlain_zeros (count : Nat) : IsPlain (List.replicate count '0') := by
  intro c hc
  rw [List.eq_of_mem_replicate hc]
  rfl

section Doubles

variable {digits : List Char} (hdigits : IsPlain digits)

include hdigits

theorem isPlain_pointed (whole : Int) : IsPlain (Double.pointed digits whole) := by
  unfold Double.pointed
  split_ifs
  · exact (IsPlain.cons rfl (.cons rfl (isPlain_zeros _))).append hdigits
  · exact (hdigits.append (isPlain_zeros _)).append (.cons rfl (.cons rfl isPlain_nil))
  · exact (hdigits.of_sublist (List.take_sublist _ _)).append
      (.cons rfl (hdigits.of_sublist (List.drop_sublist _ _)))

theorem isPlain_scaled (plus : Bool) (power : Int) : IsPlain (Double.scaled plus digits power) := by
  have hsign : IsPlain (if plus && decide (0 ≤ power) then ['+'] else []) := by
    split <;> decide
  unfold Double.scaled
  refine .append ?_ (.cons rfl (hsign.append (isPlain_integerText power)))
  split
  · exact hdigits
  · exact (hdigits.of_sublist (List.take_sublist _ _)).append
      (.cons rfl (hdigits.of_sublist (List.drop_sublist _ _)))

end Doubles

theorem isPlain_decimalText (style : Double.Style) (number : Decimal) :
    IsPlain (Double.decimalText style number) := by
  have hdigits := isPlain_digits (all_isDecimalDigit_toDigits number.significand)
  unfold Double.decimalText
  dsimp only
  split
  · exact isPlain_pointed hdigits _
  · exact isPlain_scaled hdigits _ _

theorem isPlain_finiteText (value : Double) :
    IsPlain (value.finiteText Double.scriptStyle) := by
  unfold Double.finiteText
  dsimp only
  split
  · exact .cons rfl (isPlain_decimalText _ _)
  · exact isPlain_decimalText _ _

theorem isPlain_double (value : Double) : IsPlain (Literal.double value) := by
  unfold Literal.double
  split_ifs
  · decide
  · decide
  · decide
  · exact isPlain_finiteText value

theorem isPlain_defaultValue (value : DefaultValue) : IsPlain (Literal.defaultValue value) := by
  cases value with
  | bool value => cases value <;> decide
  | int value => exact isPlain_integerText _
  | long value => exact (isPlain_integerText _).append (.cons rfl isPlain_nil)
  | double value => exact isPlain_double value
  | string value => exact isPlain_string value

theorem isPlain_columnIdentifier (name : String) : IsPlain (columnIdentifier name) := by
  have hname := isPlain_of_isWord (Identifier.isWord_derive name)
  unfold columnIdentifier Identifier.render
  split
  · rw [String.toList_append]
    exact .append (by decide) hname
  · exact hname

theorem isPlain_selector (columns : List String) : IsPlain (selector columns) := by
  have hpaths : ∀ text ∈ columns.map fun column => 'x' :: '.' :: columnIdentifier column,
      IsPlain text := by
    intro text hmem
    obtain ⟨column, -, rfl⟩ := List.mem_map.mp hmem
    exact .cons rfl (.cons rfl (isPlain_columnIdentifier column))
  unfold selector
  split
  · rename_i selected heq
    rw [heq] at hpaths
    exact .append (by decide) (hpaths selected List.mem_cons_self)
  · exact (IsPlain.append (by decide) (isPlain_joined hpaths)).append (by decide)

theorem isPlain_value (value : WrittenValue) : IsPlain value.text := by
  cases value with
  | constant value => exact isPlain_defaultValue value
  | action action => cases action <;> decide
  | strings texts =>
    refine (IsPlain.append (by decide) (isPlain_joined fun text hmem => ?_)).append (by decide)
    obtain ⟨text, -, rfl⟩ := List.mem_map.mp hmem
    exact isPlain_string text
  | selector columns => exact isPlain_selector columns

/-! ### Lines -/

/-- No line holds a control character. -/
def PlainLines (lines : List Line) : Prop :=
  ∀ line ∈ lines, IsPlain line.text

section Lines

variable {lines others : List Line}

theorem plainLines_nil : PlainLines [] :=
  fun _ hmem => absurd hmem List.not_mem_nil

theorem PlainLines.cons {line : Line} (hline : IsPlain line.text) (h : PlainLines lines) :
    PlainLines (line :: lines) :=
  List.forall_mem_cons.mpr ⟨hline, h⟩

theorem PlainLines.append (h : PlainLines lines) (hothers : PlainLines others) :
    PlainLines (lines ++ others) :=
  List.forall_mem_append.mpr ⟨h, hothers⟩

theorem plainLines_map {α : Type} {items : List α} {write : α → Line}
    (h : ∀ item ∈ items, IsPlain (write item).text) : PlainLines (items.map write) :=
  List.forall_mem_map.mpr h

theorem plainLines_flatMap {α : Type} {items : List α} {write : α → List Line}
    (h : ∀ item ∈ items, PlainLines (write item)) : PlainLines (items.flatMap write) := by
  intro line hline
  obtain ⟨item, hitem, hline⟩ := List.mem_flatMap.mp hline
  exact h item hitem line hline

theorem PlainLines.indent (h : PlainLines lines) : PlainLines (lines.map (·.indent)) :=
  plainLines_map h

end Lines

section Calls

variable {arguments : List WrittenArgument}

theorem isPlain_argument {argument : WrittenArgument} (hname : IsPlain argument.name.toList) :
    IsPlain argument.text :=
  (hname.append (.cons rfl (.cons rfl isPlain_nil))).append (isPlain_value argument.value)

theorem isPlain_texts (naming : Naming)
    (hnames : ∀ argument ∈ arguments, IsPlain argument.name.toList) :
    ∀ text ∈ texts naming arguments, IsPlain text := by
  unfold texts
  split
  · exact List.forall_mem_singleton.mpr (isPlain_value _)
  · exact List.forall_mem_map.mpr fun argument hmem => isPlain_argument (hnames argument hmem)

theorem plainLines_callLines {target : String} {shape : CallShape} (htarget : IsPlain target.toList)
    (hmethod : IsPlain shape.method.toList)
    (hnames : ∀ argument ∈ arguments, IsPlain argument.name.toList) :
    PlainLines (callLines target shape arguments) := by
  have hhead : IsPlain (target.toList ++ '.' :: shape.method.toList ++ ['(']) :=
    (htarget.append (.cons rfl hmethod)).append (.cons rfl isPlain_nil)
  have htexts := isPlain_texts shape.naming hnames
  unfold callLines
  dsimp only
  split
  · exact plainLines_nil.cons ((hhead.append (isPlain_joined htexts)).append (by decide))
  · refine (plainLines_map ?_).cons hhead
    exact isPlain_terminated (.cons rfl isPlain_nil) (by decide) htexts

end Calls

/-- The names of parameters are plain. -/
theorem WrittenArgument.Fits.isPlain {arguments : List WrittenArgument}
    {parameters : List Parameter} (h : Fits arguments parameters)
    (hnames : ∀ name ∈ parameters.map (·.name), Identifier.isValid name = true) :
    ∀ argument ∈ arguments, IsPlain argument.name.toList :=
  fun argument hmem => isPlain_of_isValid (h.isValid hnames argument hmem)

theorem Column.isPlain_declaration (column : Column) : IsPlain column.declaration := by
  have hnames := column.fits_declaration.isPlain (by decide)
  have htexts := isPlain_texts .named hnames
  have hhead := isPlain_columnIdentifier column.name
  exact ((hhead.append (by decide)).append (isPlain_joined htexts)).append (.cons rfl isPlain_nil)

theorem Key.isPlain_declaration {method : String} (key : Key) (hmethod : IsPlain method.toList) :
    IsPlain (key.declaration method) := by
  have hcall : IsPlain ("table.".toList ++ method.toList) := .append (by decide) hmethod
  have hname : IsPlain ('(' :: Literal.string key.name) := .cons rfl (isPlain_string key.name)
  have hhead := (hcall.append hname).append (by decide : IsPlain [',', ' '])
  exact (hhead.append (isPlain_selector key.columns)).append (by decide)

theorem ForeignKey.plainLines_lines (key : ForeignKey) : PlainLines key.lines :=
  plainLines_callLines (by decide) (by decide) (key.fits_declaration.isPlain (by decide))

namespace Table

theorem plainLines_columnLines (table : Table) : PlainLines table.columnLines := by
  refine plainLines_map (isPlain_terminated (.cons rfl isPlain_nil) isPlain_nil ?_)
  exact List.forall_mem_map.mpr fun column _ => column.isPlain_declaration

theorem plainLines_constraintLines (table : Table) : PlainLines table.constraintLines := by
  refine .append (.append ?_ ?_) ?_
  · exact plainLines_map fun key _ => key.isPlain_declaration (by decide)
  · exact plainLines_flatMap fun key _ => key.plainLines_lines
  · exact plainLines_map fun key _ => key.isPlain_declaration (by decide)

theorem plainLines_body (table : Table) : PlainLines table.body := by
  have hnames := table.fits_headArguments.isPlain (by decide)
  have hhead : PlainLines ((string "name" table.name ++ optionalString "schema" table.schema).map
      fun argument => ⟨0, argument.text ++ [',']⟩) :=
    plainLines_map fun argument hmem =>
      (isPlain_argument (hnames argument hmem)).append (.cons rfl isPlain_nil)
  have hfixed (lines : List Line) (h : ∀ line ∈ lines, IsPlain line.text) : PlainLines lines := h
  unfold body
  dsimp only
  rw [List.map_map]
  refine .append (.append (.append (.append (.append hhead ?_) ?_) ?_) ?_) ?_
  · exact hfixed _ (by decide)
  · exact table.plainLines_columnLines.indent
  · exact hfixed _ (by decide)
  · exact table.plainLines_constraintLines.indent
  · exact hfixed _ (by decide)

end Table

theorem Operation.plainLines_lines {builder : String} (operation : Operation)
    (hbuilder : Identifier.isValid builder = true) : PlainLines (operation.lines builder) := by
  have htarget := isPlain_of_isValid hbuilder
  by_cases htable : operation.kind = .createTable
  · cases operation <;> cases htable
    rename_i table
    have hhead : IsPlain (builder.toList ++ '.' :: Kind.createTable.method.toList ++ ['(']) :=
      (htarget.append (by decide : IsPlain ('.' :: Kind.createTable.method.toList))).append
        (by decide)
    exact table.plainLines_body.indent.cons hhead
  · have hmethod : IsPlain operation.kind.shape.method.toList := by
      rw [Kind.method_shape]
      exact isPlain_of_isValid operation.kind.isValid_method
    rw [lines_eq_callLines htable]
    exact plainLines_callLines htarget hmethod
      ((fits_parameters htable).isPlain Kind.isValid_parameter)

/-! ### Scripts -/

/-- In the text of plain lines only their endings are control characters. -/
theorem PlainLines.filter_render {lines : List Line} (h : PlainLines lines) (layout : Layout) :
    (lines.flatMap (·.render layout)).filter isControl =
      lines.flatMap fun _ => layout.ending.text.toList := by
  have hending : layout.ending.text.toList.filter isControl = layout.ending.text.toList := by
    cases layout.ending <;> rfl
  rw [List.filter_flatMap]
  refine List.flatMap_congr fun line hline => ?_
  have hindent : (List.replicate (line.level * layout.indentWidth.toNat) ' ').filter isControl =
      [] := by
    refine List.filter_eq_nil_iff.mpr fun c hc => ?_
    rw [List.eq_of_mem_replicate hc]
    decide
  have htext : line.text.filter isControl = [] :=
    List.filter_eq_nil_iff.mpr fun c hc => by rw [h line hline c hc]; decide
  rw [Line.render, List.filter_append, List.filter_append, hindent, htext, hending]
  rfl

/-- The operations of a script are written on lines that do not depend on the layout: the layout
says by how many spaces a level is indented and what ends a line. The lines hold no control
characters, so that every line break ends a line and the text of a name or of a statement never
breaks one. In all layouts the script has tokens of the same kinds. -/
theorem layout_changes_white_space {builder : String} {operations : List Operation}
    (hbuilder : Identifier.isValid builder = true) (hoperations : fault? operations = none) :
    ∃ lines : List Line,
      (∀ line ∈ lines, ∀ c ∈ line.text, isControl c = false) ∧
      ∃ kinds, ∀ layout : Layout, ∃ code, generate layout builder operations = .ok code ∧
        code.toList = lines.flatMap (fun line =>
          List.replicate (line.level * layout.indentWidth.toNat) ' ' ++ line.text ++
            layout.ending.text.toList) ∧
        code.toList.filter isControl = lines.flatMap (fun _ => layout.ending.text.toList) ∧
        (tokenize code).map (·.kind) = kinds := by
  have hplain : PlainLines (operations.flatMap fun operation => operation.lines builder) :=
    plainLines_flatMap fun operation _ => operation.plainLines_lines hbuilder
  obtain ⟨kinds, hkinds, -⟩ := programForm_render hbuilder operations
  refine ⟨_, hplain, kinds ++ [.endOfInput], fun layout => ?_⟩
  refine ⟨.ofList (render layout builder operations), ?_, ?_, ?_, ?_⟩
  · rw [generate, generateError?, if_pos hbuilder, hoperations]
    rfl
  · rw [String.toList_ofList, render_eq]
    rfl
  · rw [String.toList_ofList, render_eq]
    exact hplain.filter_render layout
  · rw [← hkinds layout, sourceKinds_eq, tokenize, List.map_append]
    rfl

/-- A statement of SQL that goes over two lines is written on one. -/
theorem layout_changes_white_space_twoLines :
    Identifier.isValid "mb" = true ∧
      fault? [.sql ⟨"SELECT 1;\r\nGO", false⟩, .dropTable ⟨"T", some "\x00"⟩] = none ∧
      ∃ lines : List Line,
        (∀ line ∈ lines, ∀ c ∈ line.text, isControl c = false) ∧
        ∃ kinds, ∀ layout : Layout, ∃ code,
          generate layout "mb" [.sql ⟨"SELECT 1;\r\nGO", false⟩, .dropTable ⟨"T", some "\x00"⟩] =
            .ok code ∧
          code.toList = lines.flatMap (fun line =>
            List.replicate (line.level * layout.indentWidth.toNat) ' ' ++ line.text ++
              layout.ending.text.toList) ∧
          code.toList.filter isControl = lines.flatMap (fun _ => layout.ending.text.toList) ∧
          (tokenize code).map (·.kind) = kinds := by
  have hbuilder : Identifier.isValid "mb" = true := by decide
  have hoperations :
      fault? [.sql ⟨"SELECT 1;\r\nGO", false⟩, .dropTable ⟨"T", some "\x00"⟩] = none := by decide
  exact ⟨hbuilder, hoperations, layout_changes_white_space hbuilder hoperations⟩

end MigrationScript
