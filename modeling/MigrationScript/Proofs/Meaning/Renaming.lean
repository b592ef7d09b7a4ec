import MigrationScript.Proofs.Meaning.Declaration
import MigrationScript.Proofs.Meaning.Matches
import MigrationScript.Proofs.Meaning.Spans

/-!
# Parameters and identifiers are binders

A function of a table may have any parameter, and a column any identifier, as long as the
identifiers stay distinct and each column keeps its name. The identifier is the name of a column
that is given none, so such a column keeps its identifier.
-/

namespace MigrationScript

/-! ### Other parameters and identifiers -/

/-- The call on another target, if its target is the parameter. -/
def Call.rebind (parameter new : String) (call : Call) : Call :=
  { call with target := if call.target = parameter then new else call.target }

/-- The path with another parameter and other identifiers, if it starts at the parameter. -/
def renameSegments (rename : String → String) (parameter new : String) : List String → List String
  | [] => []
  | head :: identifiers =>
    if head = parameter then new :: identifiers.map rename else head :: identifiers

def Member.renamePath (rename : String → String) (parameter new : String) : Member → Member
  | .path segments span => .path (renameSegments rename parameter new segments) span
  | .named identifier value span => .named identifier value span

/-- The body of a function that selects columns, with another parameter and other identifiers. -/
def Expr.renamePaths (rename : String → String) (parameter new : String) : Expr → Expr
  | .path segments span => .path (renameSegments rename parameter new segments) span
  | .object members span => .object (members.map (Member.renamePath rename parameter new)) span
  | body => body

/-- The identifier that a member declares. -/
def Member.identifier? : Member → Option String
  | .named identifier _ _ => some identifier
  | .path _ _ => none

/-- The arguments of the declaration give the column a name. -/
def Call.GivesName (declaration : Call) : Prop :=
  ((Bound.filled declaration Parameter.declaredColumn).value? "name").isSome = true

section Renames

variable (rename : String → String)

/-- The same column is declared under another identifier, for which it has to have a name. -/
inductive Member.RenamesColumn (parameter new : String) : Member → Member → Prop
  | named {identifier : String} {call : Call} {span : Span} :
    (rename identifier ≠ identifier → call.GivesName) →
    Member.RenamesColumn parameter new (.named identifier (.call call) span)
      (.named (rename identifier) (.call (call.rebind parameter new)) span)

/-- A function selects the same columns with any other parameter. Further values stay. -/
inductive Expr.RenamesSelector : Expr → Expr → Prop
  | function {parameter new : String} {body : Expr} {span : Span} :
    Expr.RenamesSelector (.function parameter body span)
      (.function new (body.renamePaths rename parameter new) span)
  | other {value : Expr} : ¬value.IsFunction → Expr.RenamesSelector value value

/-- The same constraint is declared on another parameter. -/
inductive Call.RenamesConstraint (parameter new : String) : Call → Call → Prop
  | call {call : Call} {arguments : List Argument} :
    List.Forall₂ (Argument.Related (Expr.RenamesSelector rename)) call.arguments arguments →
    Call.RenamesConstraint parameter new call { call.rebind parameter new with arguments }

/-- A function declares the same columns or constraints with any other parameter, and columns under
other identifiers, which stay distinct. Further values stay. -/
inductive Expr.RenamesDeclarations : Expr → Expr → Prop
  | columns {parameter new : String} {members members' : List Member} {span span' : Span} :
    List.Forall₂ (Member.RenamesColumn rename parameter new) members members' →
    (∀ one ∈ members.filterMap (·.identifier?), ∀ two ∈ members.filterMap (·.identifier?),
      rename one = rename two → one = two) →
    Expr.RenamesDeclarations (.function parameter (.object members span) span')
      (.function new (.object members' span) span')
  | constraints {parameter new : String} {statements statements' : List Call} {span : Span} :
    List.Forall₂ (Call.RenamesConstraint rename parameter new) statements statements' →
    Expr.RenamesDeclarations (.block parameter statements span) (.block new statements' span)
  | other {value : Expr} : ¬value.IsFunction → Expr.RenamesDeclarations value value

/-- The statements differ in the parameters of their functions and in the identifiers of columns. -/
structure Call.RenamesBinders (first second : Call) : Prop where
  target_eq : second.target = first.target
  method_eq : second.method = first.method
  arguments : List.Forall₂ (Argument.Related (Expr.RenamesDeclarations rename)) first.arguments
    second.arguments

end Renames

/-! ### Values that stay but for functions -/

/-- Related values are the same, but for functions. -/
def KeepsValues (related : Expr → Expr → Prop) : Prop :=
  ∀ one two, related one two → one = two ∨ one.IsFunction ∧ two.IsFunction

theorem keepsValues_eq : KeepsValues Eq :=
  fun _ _ => .inl

theorem keepsValues_renamesSelector (rename : String → String) :
    KeepsValues (Expr.RenamesSelector rename) := by
  rintro _ _ (_ | _)
  · exact .inr ⟨trivial, trivial⟩
  · exact .inl rfl

theorem keepsValues_renamesDeclarations (rename : String → String) :
    KeepsValues (Expr.RenamesDeclarations rename) := by
  rintro _ _ (_ | _ | _)
  · exact .inr ⟨trivial, trivial⟩
  · exact .inr ⟨trivial, trivial⟩
  · exact .inl rfl

namespace Bound

/-- The values of the parameters are related. -/
def Related (related : Expr → Expr → Prop) (first second : Bound) : Prop :=
  ∀ name, Option.Rel related (first.value? name) (second.value? name)

theorem Related.isSome_eq {related : Expr → Expr → Prop} {first second : Bound}
    (h : Related related first second) (name : String) :
    (first.value? name).isSome = (second.value? name).isSome := by
  have hname := h name
  generalize first.value? name = one at hname
  generalize second.value? name = two at hname
  cases hname <;> rfl

section Related

variable {related : Expr → Expr → Prop} (hkeeps : KeepsValues related) {first second : Bound}

include hkeeps

theorem Related.of_entries (h : RelatedEntries related first.given second.given) :
    Related related first second := by
  intro name
  have hlookup := h.lookup name
  unfold Bound.value?
  generalize first.given.lookup name = one at hlookup
  generalize second.given.lookup name = two at hlookup
  cases hlookup with
  | none => exact .none
  | @some one two hvalue =>
    obtain rfl | ⟨hone, htwo⟩ := hkeeps one two hvalue
    · split
      · exact .none
      · exact .some hvalue
    · cases one <;> cases hone <;> cases two <;> cases htwo <;> exact .some hvalue

/-- A call is bound if one with related arguments is, and to related values. -/
theorem exists_ofCall_of_related {one two : Call} {parameters : List Parameter}
    (hnodup : (parameters.map (·.name)).Nodup)
    (h : List.Forall₂ (Argument.Related related) one.arguments two.arguments)
    (hfirst : ofCall one parameters = .ok first) :
    ∃ second, ofCall two parameters = .ok second ∧ Related related first second := by
  obtain ⟨hfills, rfl, hrequired⟩ := (ofCall_eq_ok_iff hnodup).mp hfirst
  have hrelated : Related related (filled one parameters) (filled two parameters) :=
    .of_entries hkeeps (related_entries h)
  refine ⟨filled two parameters, (ofCall_eq_ok_iff hnodup).mpr ⟨(fills_related_iff h).mp hfills,
    rfl, fun parameter hparameter hisRequired => ?_⟩, hrelated⟩
  rw [← hrelated.isSome_eq]
  exact hrequired parameter hparameter hisRequired

namespace Related

variable (h : Related related first second)

include h

section Read

variable {α : Type} {convert : Conversion α} (hconvert : convert.RefusesFunctions) {name : String}

include hconvert

theorem optional {read : Option α} (hread : first.optional convert name = .ok read) :
    second.optional convert name = .ok read := by
  have hname := h name
  unfold Bound.optional at hread ⊢
  generalize first.value? name = one at hname hread
  generalize second.value? name = two at hname
  cases hname with
  | none => exact hread
  | @some one two hvalue =>
    obtain rfl | ⟨hone, -⟩ := hkeeps one two hvalue
    · exact hread
    · obtain ⟨error, herror⟩ := hconvert name one hone
      dsimp only at hread
      rw [herror] at hread
      cases hread

theorem required {value : α} (hread : first.required convert name = .ok value) :
    second.required convert name = .ok value := by
  rw [required_eq_ok_iff_optional] at hread ⊢
  exact h.optional hkeeps hconvert hread

end Read

theorem columns {singular plural : String} {names : List String}
    (hread : first.columns singular plural = .ok names) :
    second.columns singular plural = .ok names := by
  simp only [Bound.columns, except_bind_eq_ok, exclusive_eq_ok_iff] at hread ⊢
  obtain ⟨_, hone, column, hcolumn, hread⟩ := hread
  refine ⟨(), ?_, column, h.optional hkeeps Expr.refuses_toText hcolumn, ?_⟩
  · rwa [← h.isSome_eq, ← h.isSome_eq]
  · cases column with
    | some column => exact hread
    | none =>
      obtain ⟨names, hnames, hread⟩ := except_bind_eq_ok.mp hread
      exact except_bind_eq_ok.mpr ⟨names, h.optional hkeeps Expr.refuses_toTexts hnames, hread⟩

theorem givesOptions {column : Column} (hgives : first.GivesOptions column) :
    second.GivesOptions column := by
  obtain ⟨hone, ⟨given, hnullable, heq⟩, hvalue, hexpression⟩ := hgives
  refine ⟨?_, ⟨given, h.optional hkeeps Expr.refuses_toBool hnullable, heq⟩,
    h.optional hkeeps Expr.refuses_toDefault hvalue,
    h.optional hkeeps Expr.refuses_toText hexpression⟩
  rwa [← h.isSome_eq, ← h.isSome_eq]

theorem givesReference {key : ForeignKey} (hgives : first.GivesReference key) :
    second.GivesReference key := by
  obtain ⟨hschema, htable, hcolumns, ⟨update, hupdate, heqUpdate⟩, delete, hdelete, heqDelete⟩ :=
    hgives
  exact ⟨h.optional hkeeps Expr.refuses_toText hschema,
    h.required hkeeps Expr.refuses_toText htable, h.columns hkeeps hcolumns,
    ⟨update, h.optional hkeeps Expr.refuses_toAction hupdate, heqUpdate⟩,
    delete, h.optional hkeeps Expr.refuses_toAction hdelete, heqDelete⟩

/-- A function is given where one with related declarations or selections is. -/
theorem optional_toFunction {name : String} {read : Option Expr}
    (hread : first.optional Expr.toFunction name = .ok read) :
    ∃ read', second.optional Expr.toFunction name = .ok read' ∧ Option.Rel related read read' := by
  have hname := h name
  unfold Bound.optional at hread ⊢
  generalize first.value? name = one at hname hread
  generalize second.value? name = two at hname
  cases hname with
  | none =>
    cases hread
    exact ⟨none, rfl, .none⟩
  | @some one two hvalue =>
    obtain ⟨function, hfunction, rfl⟩ := except_map_eq_ok.mp hread
    obtain ⟨hone, rfl⟩ := Expr.toFunction_eq_ok_iff.mp hfunction
    have htwo : two.IsFunction := by
      obtain rfl | ⟨-, htwo⟩ := hkeeps function two hvalue
      · exact hone
      · exact htwo
    refine ⟨some two, ?_, .some hvalue⟩
    exact except_map_eq_ok.mpr ⟨two, Expr.toFunction_of_isFunction htwo name, rfl⟩

theorem required_toFunction {name : String} {function : Expr}
    (hread : first.required Expr.toFunction name = .ok function) :
    ∃ function', second.required Expr.toFunction name = .ok function' ∧
      related function function' := by
  obtain ⟨read, hread, hrelated⟩ :=
    h.optional_toFunction hkeeps (required_eq_ok_iff_optional.mp hread)
  cases hrelated with
  | some hrelated => exact ⟨_, required_eq_ok_iff_optional.mpr hread, hrelated⟩

end Related

end Related

end Bound

/-! ### Declarations under other identifiers -/

section Declarations

variable {rename : String → String} {owner : Owner} {parameter new : String}

theorem Call.target_rebind {call : Call} (htarget : call.target = parameter) :
    (call.rebind parameter new).target = new :=
  if_pos htarget

/-- A column that has a name, or keeps its identifier, is declared in the same way on another
parameter. -/
theorem Call.DeclaresColumn.rebind {identifier : String} {call : Call} {column : Column}
    (h : call.DeclaresColumn owner parameter identifier column)
    (hname : rename identifier ≠ identifier → call.GivesName) :
    (call.rebind parameter new).DeclaresColumn owner new (rename identifier) column := by
  obtain ⟨htarget, hmethod, hbelongs, bound, hbound, ⟨given, hgiven, heq⟩, htype, hgives⟩ := h
  have hsame : List.Forall₂ (Argument.Related Eq) call.arguments call.arguments :=
    List.forall₂_same.mpr fun argument _ => ⟨rfl, rfl⟩
  obtain ⟨bound', hbound', hrelated⟩ :=
    @Bound.exists_ofCall_of_related Eq keepsValues_eq bound call (call.rebind parameter new)
      Parameter.declaredColumn (by decide) hsame hbound
  refine ⟨target_rebind htarget, hmethod, hbelongs, bound', hbound',
    ⟨given, hrelated.optional keepsValues_eq Expr.refuses_toText hgiven, ?_⟩,
    hrelated.required keepsValues_eq Expr.refuses_toText htype,
    hrelated.givesOptions keepsValues_eq hgives⟩
  by_cases hkept : rename identifier = identifier
  · rw [hkept, heq]
  · obtain ⟨-, rfl, -⟩ := (Bound.ofCall_eq_ok_iff (by decide)).mp hbound
    have hsome : given.isSome = true := by
      rw [Bound.isSome_of_optional_eq_ok hgiven]
      exact hname hkept
    obtain ⟨name, rfl⟩ := Option.isSome_iff_exists.mp hsome
    exact heq

theorem Member.Declares.renamesColumn {member member' : Member} {entry : String × Column}
    (h : member.Declares owner parameter entry)
    (hrenames : Member.RenamesColumn rename parameter new member member') :
    member'.Declares owner new (rename entry.1, entry.2) := by
  cases hrenames with
  | named hname =>
    cases h with
    | named h => exact .named (h.rebind hname)

/-- The columns under other identifiers. -/
def renameDeclared (rename : String → String) (declared : DeclaredColumns) : DeclaredColumns :=
  declared.map fun entry => (rename entry.1, entry.2)

variable {declared : DeclaredColumns}

theorem identifiers_of_declares {members : List Member}
    (h : List.Forall₂ (Member.Declares owner parameter) members declared) :
    members.filterMap (·.identifier?) = declared.map (·.1) := by
  induction h with
  | nil => rfl
  | cons hhead _ ih =>
    cases hhead with
    | named => exact congrArg (List.cons _) ih

/-- Related items declare as much as those that they are related to. -/
theorem forall₂_of_related {α β γ : Type} {declares : α → β → Prop} {related : α → γ → Prop}
    {declares' : γ → β → Prop} {items : List α} {values : List β} {others : List γ}
    (hstep : ∀ item value other, declares item value → related item other → declares' other value)
    (h : List.Forall₂ declares items values) (hrelated : List.Forall₂ related items others) :
    List.Forall₂ declares' others values := by
  induction h generalizing others with
  | nil =>
    cases hrelated
    exact .nil
  | cons hhead _ ih =>
    cases hrelated with
    | cons hrelated hrest => exact .cons (hstep _ _ _ hhead hrelated) (ih hrest)

theorem Expr.DeclaresColumns.renames {columns columns' : Expr}
    (h : columns.DeclaresColumns owner declared)
    (hrenames : Expr.RenamesDeclarations rename columns columns') :
    columns'.DeclaresColumns owner (renameDeclared rename declared) := by
  cases h with
  | object hmembers hnodup =>
    cases hrenames with
    | other hvalue => exact absurd trivial hvalue
    | columns hrelated hdistinct =>
      refine .object ?_ ?_
      · rw [renameDeclared, List.forall₂_map_right_iff]
        exact forall₂_of_related (fun _ _ _ h => h.renamesColumn) hmembers hrelated
      · rw [identifiers_of_declares hmembers] at hdistinct
        have hnames : (renameDeclared rename declared).map (·.1) =
            (declared.map (·.1)).map rename := by
          rw [renameDeclared, List.map_map, List.map_map]
          rfl
        rw [hnames]
        exact hnodup.map_on hdistinct

theorem SelectsPath.renamed {segments : List String} {name : String}
    (h : SelectsPath declared parameter segments name) :
    SelectsPath (renameDeclared rename declared) new (renameSegments rename parameter new segments)
      name := by
  cases h with
  | @column identifier column hmem =>
    rw [renameSegments, if_pos rfl]
    exact .column (List.mem_map_of_mem hmem)

theorem Member.Selects.renamed {member : Member} {name : String}
    (h : member.Selects declared parameter name) :
    (member.renamePath rename parameter new).Selects (renameDeclared rename declared) new name := by
  cases h with
  | path h => exact .path h.renamed

theorem Expr.Selects.renames {selector selector' : Expr} {names : List String}
    (h : selector.Selects declared names)
    (hrenames : Expr.RenamesSelector rename selector selector') :
    selector'.Selects (renameDeclared rename declared) names := by
  cases hrenames with
  | other hvalue => cases h <;> exact absurd trivial hvalue
  | function =>
    cases h with
    | path h => exact .path h.renamed
    | object hmembers =>
      refine .object (List.forall₂_map_left_iff.mpr ?_)
      exact hmembers.imp fun _ _ h => h.renamed

theorem Call.DeclaresKey.renames {call : Call} {arguments : List Argument} {key : Key}
    (h : call.DeclaresKey owner declared key)
    (hrenames : List.Forall₂ (Argument.Related (Expr.RenamesSelector rename)) call.arguments
      arguments) :
    Call.DeclaresKey owner (renameDeclared rename declared)
      { call.rebind parameter new with arguments } key := by
  obtain ⟨hbelongs, bound, selector, hbound, hname, hselector, hselects⟩ := h
  have hkeeps := keepsValues_renamesSelector rename
  obtain ⟨bound', hbound', hrelated⟩ :=
    @Bound.exists_ofCall_of_related _ hkeeps bound call { call.rebind parameter new with arguments }
      _ (by decide) hrenames hbound
  obtain ⟨selector', hselector', hrenamed⟩ := hrelated.required_toFunction hkeeps hselector
  exact ⟨hbelongs, bound', selector', hbound',
    hrelated.required hkeeps Expr.refuses_toText hname, hselector', hselects.renames hrenamed⟩

theorem Call.DeclaresForeignKey.renames {call : Call} {arguments : List Argument} {key : ForeignKey}
    (h : call.DeclaresForeignKey owner declared key)
    (hrenames : List.Forall₂ (Argument.Related (Expr.RenamesSelector rename)) call.arguments
      arguments) :
    Call.DeclaresForeignKey owner (renameDeclared rename declared)
      { call.rebind parameter new with arguments } key := by
  obtain ⟨hbelongs, bound, selector, hbound, hname, hselector, hselects, hgives⟩ := h
  have hkeeps := keepsValues_renamesSelector rename
  obtain ⟨bound', hbound', hrelated⟩ :=
    @Bound.exists_ofCall_of_related _ hkeeps bound call { call.rebind parameter new with arguments }
      _ (by decide) hrenames hbound
  obtain ⟨selector', hselector', hrenamed⟩ := hrelated.required_toFunction hkeeps hselector
  exact ⟨hbelongs, bound', selector', hbound',
    hrelated.required hkeeps Expr.refuses_toText hname, hselector', hselects.renames hrenamed,
    hrelated.givesReference hkeeps hgives⟩

theorem Call.Declares.renames {call call' : Call} {constraint : Constraint}
    (h : call.Declares owner declared parameter constraint)
    (hrenames : Call.RenamesConstraint rename parameter new call call') :
    call'.Declares owner (renameDeclared rename declared) new constraint := by
  cases hrenames with
  | call harguments =>
    cases h with
    | primaryKey htarget hmethod hkey =>
      exact .primaryKey (target_rebind htarget) hmethod (hkey.renames harguments)
    | foreignKey htarget hmethod hkey =>
      exact .foreignKey (target_rebind htarget) hmethod (hkey.renames harguments)
    | unique htarget hmethod hkey =>
      exact .unique (target_rebind htarget) hmethod (hkey.renames harguments)

theorem DeclaresConstraints.renames {block block' : Option Expr} {constraints : List Constraint}
    (h : DeclaresConstraints owner declared block constraints)
    (hrenames : Option.Rel (Expr.RenamesDeclarations rename) block block') :
    DeclaresConstraints owner (renameDeclared rename declared) block' constraints := by
  cases h with
  | none =>
    cases hrenames
    exact .none
  | block hstatements =>
    cases hrenames with
    | some hrenames =>
      cases hrenames with
      | other hvalue => exact absurd trivial hvalue
      | constraints hrelated =>
        exact .block (forall₂_of_related (fun _ _ _ h => h.renames) hstatements hrelated)

/-- The same table is declared with other parameters and identifiers. -/
theorem DeclareTable.renames {columns columns' : Expr} {block block' : Option Expr} {table : Table}
    (h : DeclareTable owner columns block table)
    (hcolumns : Expr.RenamesDeclarations rename columns columns')
    (hblock : Option.Rel (Expr.RenamesDeclarations rename) block block') :
    DeclareTable owner columns' block' table := by
  obtain ⟨declared, constraints, hdeclares, hconstraints, hone, rfl⟩ := h
  refine ⟨renameDeclared rename declared, constraints, hdeclares.renames hcolumns,
    hconstraints.renames hblock, hone, ?_⟩
  rw [Table.ofDeclared, Table.ofDeclared, renameDeclared, List.map_map]
  rfl

end Declarations

/-! ### Statements -/

section Statements

variable {rename : String → String} {first second : Bound}

theorem Table.ofBound_of_related {table : Table}
    (h : Bound.Related (Expr.RenamesDeclarations rename) first second)
    (hread : Table.ofBound first = .ok table) : Table.ofBound second = .ok table := by
  have hkeeps := keepsValues_renamesDeclarations rename
  have hread' := hread
  simp only [Table.ofBound, except_bind_eq_ok] at hread'
  obtain ⟨name, hname, schema, hschema, columns, hcolumns, -, -, block, hblock, -⟩ := hread'
  obtain ⟨columns', hcolumns', hrelated⟩ := h.required_toFunction hkeeps hcolumns
  obtain ⟨block', hblock', hrelated'⟩ := h.optional_toFunction hkeeps hblock
  have hdeclare := (Table.ofBound_eq_ok_iff hname hschema hcolumns hblock).mp hread
  exact (Table.ofBound_eq_ok_iff (h.required hkeeps Expr.refuses_toText hname)
    (h.optional hkeeps Expr.refuses_toText hschema) hcolumns' hblock').mpr
    (hdeclare.renames hrelated hrelated')

theorem Call.RenamesBinders.operation {builder : String} {one two : Call} {operation : Operation}
    (h : Call.RenamesBinders rename one two) (hmethod : one.method = "CreateTable")
    (hone : one.operation builder = .ok operation) : two.operation builder = .ok operation := by
  have hkeeps := keepsValues_renamesDeclarations rename
  obtain ⟨htarget, bound, table, hbound, htable, rfl⟩ :=
    (operation_eq_ok_iff_ofBound hmethod).mp hone
  obtain ⟨bound', hbound', hrelated⟩ :=
    Bound.exists_ofCall_of_related hkeeps (by decide) h.arguments hbound
  exact (operation_eq_ok_iff_ofBound (h.method_eq.trans hmethod)).mpr
    ⟨h.target_eq.trans htarget, bound', table, hbound', Table.ofBound_of_related hrelated htable, rfl⟩

/-- A statement that declares a table records the same operation with other parameters of functions
and other identifiers of columns. -/
theorem appends_of_renamesBinders {builder : String} {one two : Call} {operation : Operation}
    (hmethod : one.method = "CreateTable")
    (hrenames : Call.RenamesBinders rename one.eraseSpans two.eraseSpans)
    (happends : one.Appends builder operation) : two.Appends builder operation := by
  rw [Call.appends_iff_operation] at happends ⊢
  have hone : one.eraseSpans.operation builder = .ok operation := by
    rw [Call.operation_mapSpans, moved_eq_ok_iff]
    exact happends
  have hmethod' : one.eraseSpans.method = "CreateTable" := by
    rw [Call.method_mapSpans]
    exact hmethod
  have htwo := hrenames.operation hmethod' hone
  rwa [Call.operation_mapSpans, moved_eq_ok_iff] at htwo

end Statements

/-! An example: the parameters have the name of the builder and of the doubles that have no digits. -/

def renamedColumn : Call :=
  { codeColumn with target := "double" }

def renamedKey : Call :=
  ⟨"mb", "PrimaryKey", [⟨none, .constant (.string "key") default, default⟩,
    ⟨none, .function "double" (.path ["double", "NaN"] default) default, default⟩], default⟩

def renamedTable : Call :=
  ⟨"mb", "CreateTable", [⟨none, .constant (.string "T") default, default⟩,
    ⟨some "columns", .function "double"
      (.object [.named "NaN" (.call renamedColumn) default] default) default, default⟩,
    ⟨some "constraints", .block "mb" [renamedKey] default, default⟩],
    default⟩

theorem appends_renamedTable :
    codeTable.Appends "mb" codeOperation ∧ renamedTable.Appends "mb" codeOperation := by
  let rename (identifier : String) : String := if identifier = "Id" then "NaN" else identifier
  have hcolumns : Expr.RenamesDeclarations rename codeColumns
      (.function "double" (.object [.named "NaN" (.call renamedColumn) default] default) default) :=
    .columns (.cons (.named fun _ => rfl) .nil) (by decide)
  have hkey : Call.RenamesConstraint rename "table" "mb" codeKey renamedKey :=
    .call (.cons ⟨rfl, .other id⟩ (.cons ⟨rfl, .function⟩ .nil))
  have hconstraints : Expr.RenamesDeclarations rename codeConstraints
      (.block "mb" [renamedKey] default) :=
    .constraints (.cons hkey .nil)
  have hrenames : Call.RenamesBinders rename codeTable.eraseSpans renamedTable.eraseSpans :=
    ⟨rfl, rfl, .cons ⟨rfl, .other id⟩ (.cons ⟨rfl, hcolumns⟩ (.cons ⟨rfl, hconstraints⟩ .nil))⟩
  have happends : codeTable.Appends "mb" codeOperation := Call.appends_of_operation rfl
  exact ⟨happends, appends_of_renamesBinders rfl hrenames happends⟩

end MigrationScript
