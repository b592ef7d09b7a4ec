import MigrationScript.Proofs.Json.Number

/-!
# The reader reads all JSON text

Each text of a value is read as the value if the value is within the bounds of the reader. The
statements carry what stands behind the text, of which the reader takes no more than space.
-/

namespace MigrationScript

namespace Json

open Lexer

/-! ### Space -/

section Space

variable {c : Char} {space text : List Char}

theorem skipSpace_cons (h : isSpace c = false) : skipSpace (c :: text) = c :: text :=
  List.dropWhile_cons_of_neg (by rw [h]; decide)

theorem skipSpace_append (h : space.all isSpace = true) (text : List Char) :
    skipSpace (space ++ text) = skipSpace text :=
  List.dropWhile_append_of_pos (List.all_eq_true.mp h)

theorem skipSpace_append_cons (h : space.all isSpace = true) (hc : isSpace c = false)
    (text : List Char) : skipSpace (space ++ c :: text) = c :: text :=
  (skipSpace_append h _).trans (skipSpace_cons hc)

end Space

/-! ### Strings -/

section String

variable {check : Check} {c : Char} {part chars text rest : List Char}

theorem readString?_plain (hquote : c ≠ '"') (hbackslash : c ≠ '\\') (hcontrol : ¬c.toNat < 0x20) :
    readString? check (c :: rest) =
      (readString? check rest).map fun (text, rest) => (c :: text, rest) := by
  have hplain : (decide (c.toNat < 0x20) || c == '\\') = false := by
    rw [decide_eq_false hcontrol, beq_eq_false_iff_ne.mpr hbackslash]
    rfl
  rw [readString?]
  · rw [hplain]
    rfl
  · exact hquote
  · exact fun _ _ _ _ _ heq _ => hbackslash heq
  · exact fun _ _ heq _ => hbackslash heq

theorem scalar?_of_paired? {high low : Nat} (h : paired? high low = some c) :
    scalar? high = none := by
  rw [paired?] at h
  split at h
  · rename_i hsurrogate
    exact if_neg (by rw [Nat.isValidChar]; omega)
  · cases h

theorem Escape.readString?_append (h : Escape c part) (rest : List Char) :
    readString? .full (part ++ rest) =
      (readString? .full rest).map fun (text, rest) => (c :: text, rest) := by
  cases h with
  | plain hquote hbackslash hcontrol => exact readString?_plain hquote hbackslash hcontrol
  | short h =>
    unfold escaped? at h
    split at h <;> cases h <;> rfl
  | code h =>
    rw [List.cons_append, List.cons_append, List.cons_append, List.cons_append, List.cons_append,
      List.cons_append, List.nil_append, readString?, h]
    simp only [Lexer.scalar?_toNat]
  | pair hhigh hlow h =>
    simp only [List.cons_append, List.nil_append]
    rw [readString?, hhigh]
    simp only [scalar?_of_paired? h, hlow, Option.bind_some, h]

theorem Escaped.readString?_append (h : Escaped text chars) (rest : List Char) :
    readString? .full (chars ++ '"' :: rest) = some (text, rest) := by
  induction h with
  | nil => rfl
  | cons h _ ih =>
    rw [List.append_assoc, h.readString?_append, ih]
    rfl

theorem IsString.exists_cons {value : String} (h : IsString value chars) (rest : List Char) :
    ∃ body, chars ++ rest = '"' :: body ∧ readString? .full body = some (value.toList, rest) := by
  obtain @⟨chars, h⟩ := h
  refine ⟨chars ++ '"' :: rest, ?_, h.readString?_append rest⟩
  rw [List.cons_append, List.append_assoc, List.singleton_append]

theorem IsName.exists_skipSpace {name : String} (h : IsName name chars) (rest : List Char) :
    ∃ body, skipSpace (chars ++ ':' :: rest) = '"' :: body ∧
      ∃ after, readString? .full body = some (name.toList, after) ∧
        skipSpace after = ':' :: rest := by
  obtain @⟨before, chars, after, hbefore, h, hafter⟩ := h
  obtain ⟨body, hbody, hread⟩ := h.exists_cons (after ++ ':' :: rest)
  refine ⟨body, ?_, _, hread, ?_⟩
  · rw [List.append_assoc, List.append_assoc, skipSpace_append hbefore, hbody,
      skipSpace_cons (by decide)]
  · exact skipSpace_append_cons hafter (by decide) rest

end String

/-! ### Values without parts -/

section Scalar

variable {depth : Nat} {c : Char} {sign text : List Char}

/-- A value that starts with neither bracket nor brace is one that holds no other values. -/
theorem readValue?_cons (check : Check) (hspace : isSpace c = false) (hbracket : c ≠ '[')
    (hbrace : c ≠ '\x7b') : readValue? check depth (c :: text) = readScalar? check (c :: text) := by
  cases depth with
  | zero => rw [readValue?, skipSpace_cons hspace]
  | succ depth =>
    rw [readValue?, skipSpace_cons hspace]
    split
    · rename_i heq
      exact absurd (List.cons.inj heq).1 hbracket
    · rename_i heq
      exact absurd (List.cons.inj heq).1 hbrace
    · rfl

theorem isSpace_of_isDecimalDigit (h : isDecimalDigit c = true) : isSpace c = false := by
  have hne (other : Char) (hother : isDecimalDigit other = false) : (c == other) = false :=
    beq_eq_false_iff_ne.mpr (ne_of_class h hother)
  unfold isSpace
  rw [hne ' ' (by decide), hne '\t' (by decide), hne '\n' (by decide), hne '\r' (by decide)]
  rfl

theorem readScalar?_of_isDecimalDigit (check : Check) (h : isDecimalDigit c = true) :
    readScalar? check (c :: text) = readSigned? check (c :: text) := by
  have hne (other : Char) (hother : isDecimalDigit other = false) : c ≠ other :=
    ne_of_class h hother
  unfold readScalar?
  split
  · rename_i heq
    exact absurd (List.cons.inj heq).1 (hne 'n' (by decide))
  · rename_i heq
    exact absurd (List.cons.inj heq).1 (hne 't' (by decide))
  · rename_i heq
    exact absurd (List.cons.inj heq).1 (hne 'f' (by decide))
  · rename_i heq
    exact absurd (List.cons.inj heq).1 (hne '"' (by decide))
  · rfl

theorem readValue?_of_digit (check : Check) (hsign : sign ∈ [[], ['-']])
    (h : StartsWithDigit text) :
    readValue? check depth (sign ++ text) = readSigned? check (sign ++ text) := by
  simp only [List.mem_cons, List.not_mem_nil, or_false] at hsign
  obtain rfl | rfl := hsign
  · obtain ⟨c, text, rfl, hdigit⟩ := h
    have hne (other : Char) (hother : isDecimalDigit other = false) : c ≠ other :=
      ne_of_class hdigit hother
    exact (readValue?_cons check (isSpace_of_isDecimalDigit hdigit) (hne '[' (by decide))
      (hne '\x7b' (by decide))).trans (readScalar?_of_isDecimalDigit check hdigit)
  · exact readValue?_cons check (by decide) (by decide) (by decide)

end Scalar

/-! ### Values -/

/-- The value is read from the text in front of whatever may stand behind it, but for space. -/
def ReadsText (read : List Char → Option (Json × List Char)) (json : Json) (chars : List Char) :
    Prop :=
  ∀ rest, Closed rest →
    ∃ space, space.all isSpace = true ∧ read (chars ++ rest) = some (json, space ++ rest)

section Value

variable {depth fuel : Nat} {json : Json} {chars before after text rest : List Char}

theorem readsText_of_eq {read : List Char → Option (Json × List Char)}
    (h : ∀ rest, Closed rest → read (chars ++ rest) = some (json, rest)) :
    ReadsText read json chars :=
  fun rest hrest => ⟨[], rfl, h rest hrest⟩

theorem readValue?_append_space (hspace : before.all isSpace = true) (text : List Char) :
    readValue? .full depth (before ++ text) = readValue? .full depth text := by
  cases depth <;> rw [readValue?, readValue?, skipSpace_append hspace]

theorem ReadsText.spaced (hbefore : before.all isSpace = true) (hafter : after.all isSpace = true)
    (h : ReadsText (readValue? .full depth) json chars) :
    ReadsText (readValue? .full depth) json (before ++ (chars ++ after)) := by
  intro rest hrest
  obtain ⟨space, hspace, hread⟩ := h (after ++ rest) (closed_append hafter hrest)
  refine ⟨space ++ after, by rw [List.all_append, hspace, hafter]; rfl, ?_⟩
  rw [List.append_assoc, List.append_assoc, readValue?_append_space hbefore, hread,
    List.append_assoc]

theorem readsText_integer {value : Int} (h : InRange value) :
    ReadsText (readValue? .full depth) (.integer value) (integerText value) := by
  refine readsText_of_eq fun rest hrest => ?_
  have htext : integerText value =
      (if value < 0 then ['-'] else []) ++ Nat.toDigits 10 value.natAbs := by
    rw [integerText]
    split <;> rfl
  have hsign : (if value < 0 then ['-'] else []) ∈ [[], ['-']] := by split <;> decide
  have hnegative : ((if value < 0 then ['-'] else []) == ['-']) = decide (value < 0) := by
    split <;> simp_all
  have hdigit := (whole_toDigits value.natAbs).startsWithDigit rest
  rw [htext, List.append_assoc, readValue?_of_digit .full hsign hdigit,
    readSigned?_append .full hsign hdigit, hnegative, readNumber?_toDigits .full h hrest]

theorem IsReal.readsText (h : IsReal chars) {value : Double}
    (hvalue : TextFormat.standard.number chars = some value) :
    ReadsText (readValue? .full depth) (.real value) chars := by
  refine readsText_of_eq fun rest hrest => ?_
  have hread := h.readSigned?_eq_some hvalue hrest
  obtain @⟨sign, whole, fraction, power, hsign, hwhole, -⟩ := h
  rw [← hread, List.append_assoc, List.append_assoc]
  exact readValue?_of_digit .full hsign (hwhole.startsWithDigit _)

theorem IsString.readsText {value : String} (h : IsString value chars) :
    ReadsText (readValue? .full depth) (.string value) chars := by
  refine readsText_of_eq fun rest _ => ?_
  obtain ⟨body, hbody, hread⟩ := h.exists_cons rest
  rw [hbody, readValue?_cons .full (by decide) (by decide) (by decide)]
  change (readString? .full body).map _ = _
  rw [hread, Option.map_some]
  dsimp only
  rw [String.ofList_toList]

/-! ### Arrays -/

section Items

variable {read : List Char → Option (Json × List Char)} {part : Json × List Char}
  {parts : List (Json × List Char)}

theorem readItems?_append (h : ∀ other ∈ part :: parts, ReadsText read other.1 other.2)
    (hfuel : parts.length < fuel) :
    readItems? read fuel
        ([','].intercalate ((part :: parts).map (·.2)) ++ ']' :: rest) =
      some ((part :: parts).map (·.1), rest) := by
  induction parts generalizing part fuel with
  | nil =>
    obtain _ | fuel := fuel
    · exact absurd hfuel (Nat.not_lt_zero _)
    · obtain ⟨space, hspace, hread⟩ :=
        h part List.mem_cons_self (']' :: rest) (closed_cons (by decide))
      rw [List.map_singleton, List.intercalate_singleton, readItems?, hread]
      simp only [skipSpace_append_cons hspace (by decide : isSpace ']' = false)]
      rfl
  | cons next parts ih =>
    obtain _ | fuel := fuel
    · exact absurd hfuel (Nat.not_lt_zero _)
    · rw [List.forall_mem_cons] at h
      obtain ⟨space, hspace, hread⟩ := h.1
        (',' :: ([','].intercalate ((next :: parts).map (·.2)) ++ ']' :: rest))
        (closed_cons (by decide))
      have hitems := ih h.2 (Nat.lt_of_succ_lt_succ hfuel)
      rw [List.map_cons] at hitems hread ⊢
      rw [List.map_cons, List.intercalate_cons_cons, List.append_assoc, List.append_assoc,
        List.singleton_append, readItems?, hread]
      simp only [skipSpace_append_cons hspace (by decide : isSpace ',' = false), hitems]
      rfl

/-- A text that is read as a value does not start with the end of an array. -/
theorem skipSpace_ne_of_readValue? {check : Check}
    (h : (readValue? check depth text).isSome = true) :
    ∀ tail, skipSpace text ≠ ']' :: tail := by
  intro tail heq
  have hnone : readValue? check depth text = none := by
    cases depth <;> rw [readValue?, heq] <;> rfl
  rw [hnone] at h
  cases h

/-- Something closed stands behind the first of the texts. -/
theorem exists_closed (text : List Char) (texts : List (List Char)) {c : Char}
    (hc : c ∈ [',', ']', '\x7d']) (rest : List Char) :
    ∃ tail, Closed tail ∧ [','].intercalate (text :: texts) ++ c :: rest = text ++ tail := by
  cases texts with
  | nil => exact ⟨c :: rest, closed_cons hc, by rw [List.intercalate_singleton]⟩
  | cons next texts =>
    refine ⟨',' :: ([','].intercalate (next :: texts) ++ c :: rest), closed_cons (by decide), ?_⟩
    rw [List.intercalate_cons_cons, List.append_assoc, List.append_assoc, List.singleton_append]

theorem length_intercalate (text : List Char) (texts : List (List Char)) (c : Char)
    (rest : List Char) :
    texts.length < ([','].intercalate (text :: texts) ++ c :: rest).length := by
  induction texts generalizing text with
  | nil => simp
  | cons next texts ih =>
    have hlt := ih next
    rw [List.intercalate_cons_cons]
    simp only [List.length_append, List.length_cons] at hlt ⊢
    omega

theorem readsText_array
    (h : ∀ rest, readArray? (readValue? .full depth) (chars ++ ']' :: rest) = some (json, rest)) :
    ReadsText (readValue? .full (depth + 1)) json ('[' :: (chars ++ [']'])) := by
  refine readsText_of_eq fun rest _ => ?_
  rw [List.cons_append, List.append_assoc, List.singleton_append]
  exact h rest

theorem readArray?_space (hspace : before.all isSpace = true) :
    readArray? read (before ++ ']' :: rest) = some (.array [], rest) := by
  rw [readArray?, skipSpace_append_cons hspace (by decide)]
  rfl

theorem readArray?_append (hne : parts ≠ [])
    (h : ∀ part ∈ parts, ReadsText (readValue? .full depth) part.1 part.2) :
    readArray? (readValue? .full depth) ([','].intercalate (parts.map (·.2)) ++ ']' :: rest) =
      some (.array (parts.map (·.1)), rest) := by
  obtain _ | ⟨part, parts⟩ := parts
  · exact absurd rfl hne
  · have hlength := length_intercalate part.2 (parts.map (·.2)) ']' rest
    rw [List.length_map] at hlength
    have hitems := @readItems?_append _ rest _ part parts h hlength
    have hstart : ∀ tail, skipSpace
        ([','].intercalate ((part :: parts).map (·.2)) ++ ']' :: rest) ≠ ']' :: tail := by
      obtain ⟨tail, htail, heq⟩ := @exists_closed part.2 (parts.map (·.2)) ']' (by decide) rest
      obtain ⟨space, -, hread⟩ := h part List.mem_cons_self tail htail
      rw [List.map_cons, heq]
      exact skipSpace_ne_of_readValue? (by rw [hread]; rfl)
    rw [readArray?]
    split
    · rename_i heq
      exact absurd heq (hstart _)
    · exact congrArg (Option.map _) hitems

end Items

/-! ### Objects -/

section Members

variable {read : String → List Char → Option (Json × List Char)} {name : String}
  {part : (String × Json) × List Char × List Char}
  {parts : List ((String × Json) × List Char × List Char)}

/-- The step over the last member. -/
theorem readMembers?_last (hname : IsName name chars) (hread : read name text = some (json, after))
    (hafter : skipSpace after = '\x7d' :: rest) :
    readMembers? .full read (fuel + 1) (chars ++ ':' :: text) = some ([(name, json)], rest) := by
  obtain ⟨body, hskip, behind, hbody, hcolon⟩ := hname.exists_skipSpace text
  rw [readMembers?]
  simp only [hskip, hbody, hcolon, String.ofList_toList, hread, hafter]

/-- The step over a member that another one follows. -/
theorem readMembers?_more (hname : IsName name chars) (hread : read name text = some (json, after))
    (hafter : skipSpace after = ',' :: rest) :
    readMembers? .full read (fuel + 1) (chars ++ ':' :: text) =
      (readMembers? .full read fuel rest).map fun (members, rest) =>
        ((name, json) :: members, rest) := by
  obtain ⟨body, hskip, behind, hbody, hcolon⟩ := hname.exists_skipSpace text
  rw [readMembers?]
  simp only [hskip, hbody, hcolon, String.ofList_toList, hread, hafter]

theorem readMembers?_append (hnames : ∀ other ∈ part :: parts, IsName other.1.1 other.2.1)
    (h : ∀ other ∈ part :: parts, ReadsText (read other.1.1) other.1.2 other.2.2)
    (hfuel : parts.length < fuel) :
    readMembers? .full read fuel
        ([','].intercalate ((part :: parts).map fun other => other.2.1 ++ ':' :: other.2.2) ++
          '\x7d' :: rest) =
      some ((part :: parts).map (·.1), rest) := by
  induction parts generalizing part fuel with
  | nil =>
    obtain _ | fuel := fuel
    · exact absurd hfuel (Nat.not_lt_zero _)
    · obtain ⟨space, hspace, hread⟩ :=
        h part List.mem_cons_self ('\x7d' :: rest) (closed_cons (by decide))
      have hskip := skipSpace_append_cons hspace (by decide : isSpace '\x7d' = false) rest
      rw [List.map_singleton, List.intercalate_singleton, List.append_assoc, List.cons_append]
      exact readMembers?_last (hnames part List.mem_cons_self) hread hskip
  | cons next parts ih =>
    obtain _ | fuel := fuel
    · exact absurd hfuel (Nat.not_lt_zero _)
    · rw [List.forall_mem_cons] at h hnames
      have hmembers := ih hnames.2 h.2 (Nat.lt_of_succ_lt_succ hfuel)
      rw [List.map_cons] at hmembers
      obtain ⟨space, hspace, hread⟩ := h.1 _ (closed_cons (by decide : ',' ∈ [',', ']', '\x7d']))
      have hskip := skipSpace_append_cons hspace (by decide : isSpace ',' = false)
      rw [List.map_cons, List.map_cons, List.intercalate_cons_cons, List.append_assoc,
        List.append_assoc, List.append_assoc, List.cons_append, List.singleton_append,
        readMembers?_more hnames.1 hread (hskip _), hmembers]
      rfl

theorem readsText_object (h : ∀ rest,
      readObject? .full (fun _ => readValue? .full depth) (chars ++ '\x7d' :: rest) =
        some (json, rest)) :
    ReadsText (readValue? .full (depth + 1)) json ('\x7b' :: (chars ++ ['\x7d'])) := by
  refine readsText_of_eq fun rest _ => ?_
  rw [List.cons_append, List.append_assoc, List.singleton_append]
  exact h rest

theorem readObject?_space (hspace : before.all isSpace = true) :
    readObject? .full read (before ++ '\x7d' :: rest) = some (.object [], rest) := by
  rw [readObject?, skipSpace_append_cons hspace (by decide)]
  rfl

theorem readObject?_append (hne : parts ≠ [])
    (hnames : ∀ part ∈ parts, IsName part.1.1 part.2.1)
    (h : ∀ part ∈ parts, ReadsText (read part.1.1) part.1.2 part.2.2) :
    readObject? .full read
        ([','].intercalate (parts.map fun part => part.2.1 ++ ':' :: part.2.2) ++ '\x7d' :: rest) =
      some (.object (parts.map (·.1)), rest) := by
  obtain _ | ⟨part, parts⟩ := parts
  · exact absurd rfl hne
  · have hlength := length_intercalate (part.2.1 ++ ':' :: part.2.2)
      (parts.map fun part => part.2.1 ++ ':' :: part.2.2) '\x7d' rest
    rw [List.length_map] at hlength
    have hmembers := @readMembers?_append _ rest _ part parts hnames h hlength
    have hstart : ∀ tail, skipSpace ([','].intercalate ((part :: parts).map
        fun part => part.2.1 ++ ':' :: part.2.2) ++ '\x7d' :: rest) ≠ '\x7d' :: tail := by
      intro tail heq
      obtain ⟨after, -, hafter⟩ := @exists_closed (part.2.1 ++ ':' :: part.2.2)
        (parts.map fun part => part.2.1 ++ ':' :: part.2.2) '\x7d' (by decide) rest
      obtain ⟨body, hskip, -⟩ := (hnames part List.mem_cons_self).exists_skipSpace
        (part.2.2 ++ after)
      rw [List.map_cons, hafter, List.append_assoc, List.cons_append, hskip] at heq
      exact absurd (List.cons.inj heq).1 (by decide)
    rw [readObject?]
    split
    · rename_i heq
      exact absurd heq (hstart _)
    · exact congrArg (Option.map _) hmembers

end Members

/-! ### All values -/

theorem IsText.readsText {reads : Double → Prop}
    (h : IsText (fun number chars => TextFormat.standard.number chars = some number) json chars)
    (hfits : json.Fits reads depth) : ReadsText (readValue? .full depth) json chars := by
  induction h generalizing depth with
  | spaced hbefore _ hafter ih => exact (ih hfits).spaced hbefore hafter
  | null | true | false =>
    exact readsText_of_eq fun rest _ => readValue?_cons .full (by decide) (by decide) (by decide)
  | integer value =>
    cases hfits with
    | integer hrange => exact readsText_integer hrange
  | real hform hvalue => exact hform.readsText hvalue
  | string h => exact h.readsText
  | emptyArray hspace =>
    cases hfits with
    | array => exact readsText_array fun _ => readArray?_space hspace
  | array hne _ ih =>
    cases hfits with
    | array hitems =>
      refine readsText_array fun _ => readArray?_append hne fun part hpart => ?_
      exact ih part hpart (hitems part.1 (List.mem_map_of_mem hpart))
  | emptyObject hspace =>
    cases hfits with
    | object => exact readsText_object fun _ => readObject?_space hspace
  | object hne hnames _ ih =>
    cases hfits with
    | object hmembers =>
      refine readsText_object fun _ => readObject?_append hne hnames fun part hpart => ?_
      exact ih part hpart (hmembers part.1 (List.mem_map_of_mem hpart))

end Value

theorem read?_of_isText {json : Json} {text : String} {reads : Double → Prop}
    (h : IsText (fun number chars => TextFormat.standard.number chars = some number) json
      text.toList)
    (hfits : json.Fits reads maxDepth) : read? text = some json := by
  obtain ⟨space, hspace, hread⟩ := h.readsText hfits [] nofun
  have hskip : skipSpace (space ++ []) = [] := skipSpace_append hspace []
  rw [List.append_nil] at hread
  rw [read?, hread, complete?, hskip]
  rfl

end Json

end MigrationScript
