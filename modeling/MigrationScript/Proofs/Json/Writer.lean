import MigrationScript.Proofs.Json.Reader

namespace MigrationScript

namespace Json

/-! ### Strings -/

theorem hexValue4?_hexDigits4 {code : Nat} (h : code < 0x20) :
    ∃ x₁ x₂ x₃ x₄, hexDigits4 code = [x₁, x₂, x₃, x₄] ∧ hexValue4? x₁ x₂ x₃ x₄ = some code := by
  have hall : ∀ code < 0x20,
      hexValue4? (code / 4096 % 16).digitChar (code / 256 % 16).digitChar
        (code / 16 % 16).digitChar (code % 16).digitChar = some code := by
    decide
  exact ⟨_, _, _, _, rfl, hall code h⟩

theorem escape_escapedChar (c : Char) : Escape c (escapedChar c) := by
  unfold escapedChar
  split_ifs with hquote hbackslash hbackspace hfeed hnewline hreturn htab hcontrol
  case pos =>
    subst hquote
    exact .short rfl
  case pos =>
    subst hbackslash
    exact .short rfl
  case pos =>
    subst hbackspace
    exact .short rfl
  case pos =>
    subst hfeed
    exact .short rfl
  case pos =>
    subst hnewline
    exact .short rfl
  case pos =>
    subst hreturn
    exact .short rfl
  case pos =>
    subst htab
    exact .short rfl
  case pos =>
    obtain ⟨x₁, x₂, x₃, x₄, hdigits, hvalue⟩ := hexValue4?_hexDigits4 hcontrol
    rw [hdigits]
    exact .code hvalue
  case neg => exact .plain hquote hbackslash hcontrol

theorem escaped_flatMap (text : List Char) : Escaped text (text.flatMap escapedChar) := by
  induction text with
  | nil => exact .nil
  | cons c text ih =>
    rw [List.flatMap_cons]
    exact .cons (escape_escapedChar c) ih

theorem isString_stringText (value : String) : IsString value (stringText value) :=
  .intro (escaped_flatMap value.toList)

theorem isName_stringText (name : String) : IsName name (stringText name) := by
  have hname := @IsName.intro name [] _ [] rfl (isString_stringText name) rfl
  rwa [List.append_nil] at hname

/-! ### Values -/

section Parts

variable {isNumber : Double → List Char → Prop}

theorem isText_array {items : List Json}
    (h : ∀ item ∈ items, IsText isNumber item.asWritten item.chars) :
    IsText isNumber (.array (items.map asWritten))
      ('[' :: ([','].intercalate (items.map chars) ++ [']'])) := by
  obtain rfl | hne := eq_or_ne items []
  · exact @IsText.emptyArray isNumber [] rfl
  · have harray := @IsText.array isNumber (items.map fun item => (item.asWritten, item.chars))
      (by simpa using hne) (List.forall_mem_map.mpr h)
    rw [List.map_map, List.map_map] at harray
    exact harray

theorem isText_object {members : List (String × Json)}
    (h : ∀ member ∈ members, IsText isNumber member.2.asWritten member.2.chars) :
    IsText isNumber (.object (members.map fun member => (member.1, asWritten member.2)))
      ('\x7b' :: ([','].intercalate (members.map fun member =>
        stringText member.1 ++ ':' :: chars member.2) ++ ['\x7d'])) := by
  obtain rfl | hne := eq_or_ne members []
  · exact @IsText.emptyObject isNumber [] rfl
  · have hobject := @IsText.object isNumber
      (members.map fun member =>
        ((member.1, member.2.asWritten), stringText member.1, member.2.chars))
      (by simpa using hne) (List.forall_mem_map.mpr fun member _ => isName_stringText member.1)
      (List.forall_mem_map.mpr h)
    rw [List.map_map, List.map_map] at hobject
    exact hobject

end Parts

theorem isText_chars (json : Json) :
    IsText (fun number chars => chars = TextFormat.standard.literal number) json.asWritten
      json.chars := by
  induction json using chars.induct with
  | case1 =>
    rw [asWritten, chars]
    exact .null
  | case2 =>
    rw [asWritten, chars]
    exact .true
  | case3 =>
    rw [asWritten, chars]
    exact .false
  | case4 value =>
    rw [asWritten, chars]
    exact .integer value
  | case5 value =>
    rw [asWritten, chars, realText]
    by_cases hfinite : value.isFinite = true
    · rw [if_pos hfinite, if_pos hfinite]
      exact .real (Double.isReal_finiteText hfinite) rfl
    · rw [if_neg hfinite, if_neg hfinite]
      exact .null
  | case6 value =>
    rw [asWritten, chars]
    exact .string (isString_stringText value)
  | case7 items ih =>
    rw [asWritten, chars]
    exact isText_array ih
  | case8 members ih =>
    rw [asWritten, chars]
    exact isText_object ih

end Json

theorem TextFormat.laws_standard : TextFormat.standard.Laws where
  isText_write codec value := by
    have htext := Json.isText_chars (codec.encode value)
    change Json.IsText _ _ (String.ofList (codec.encode value).chars).toList
    rwa [String.toList_ofList]
  read_of_isText codec json text h hfits := by
    change (Json.read? text).bind codec.decode = _
    rw [Json.read?_of_isText h hfits, Option.bind_some]

end MigrationScript
