import MigrationScript.Proofs.Token.Literal
import MigrationScript.Proofs.Token.Tiling

/-!
# Cutting into tokens is local

A new line, like a closing parenthesis, ends every token but a string, and a string that is closed
ends in front of it. So the tokens in front of such a character do not depend on what stands behind
it.
-/

namespace MigrationScript

namespace Lexer

variable {text more : List Char} {stop : Char}

/-- Another character than the one behind a text stands in the text. -/
theorem exists_cons_of_append_stop {c : Char} {rest : List Char} (hne : c ≠ stop)
    (h : text ++ stop :: more = c :: rest) : ∃ further, text = c :: further := by
  cases text with
  | nil => exact absurd (List.cons.inj h).1.symm hne
  | cons first text => exact ⟨text, by rw [(List.cons.inj h).1]⟩

/-- No token but a string that is open goes on with the character. -/
structure Stops (stop : Char) : Prop where
  part : isIdentifierPart stop = false
  mark : stop ∉ ['.', '>', '+', '-', '"']

theorem stops_line : Stops '\n' :=
  ⟨by decide, by decide⟩

theorem stops_rightParen : Stops ')' :=
  ⟨by decide, by decide⟩

theorem Stops.digit (h : Stops stop) : isDecimalDigit stop = false := by
  cases hdigit : isDecimalDigit stop with
  | false => rfl
  | true =>
    have hpart := h.part
    rw [isIdentifierPart_of_isDecimalDigit hdigit] at hpart
    exact hpart

theorem Stops.ne_mark (h : Stops stop) {c : Char} (hmark : c ∈ ['.', '>', '+', '-', '"']) :
    c ≠ stop := by
  rintro rfl
  exact h.mark hmark

/-! ### Gaps -/

/-- A gap in front of a token does not depend on the lines behind. -/
theorem skipGap_append_of_token {place : Gap} {gap rest : List Char} {c : Char}
    (h : skipGap place text = (gap, c :: rest)) :
    skipGap place (text ++ '\n' :: more) = (gap, c :: (rest ++ '\n' :: more)) := by
  fun_induction skipGap place text generalizing gap with
  | case1 text front behind heq ih =>
    cases h
    rw [List.cons_append, List.cons_append, skipGap, ih heq]
  | case2 text front behind heq ih =>
    cases h
    rw [List.cons_append, List.cons_append, skipGap, ih heq]
  | case3 first text _ _ hblank front behind heq ih =>
    cases h
    have hslash : first ≠ '/' := ne_of_class hblank (by decide)
    rw [List.cons_append, skipGap_of_ne hslash, if_pos hblank, ih heq]
  | case4 first text hline hblock hblank =>
    cases h
    rw [List.cons_append, skipGap, if_neg hblank]
    · intro other hfirst hother
      obtain ⟨further, rfl⟩ := exists_cons_of_append_stop (by decide) hother
      exact hline further hfirst rfl
    · intro other hfirst hother
      obtain ⟨further, rfl⟩ := exists_cons_of_append_stop (by decide) hother
      exact hblock further hfirst rfl
  | case5 first text front behind heq ih =>
    cases h
    rw [List.cons_append, skipGap, ih heq]
  | case6 text front behind heq ih =>
    cases h
    rw [List.cons_append, List.cons_append, skipGap, ih heq]
  | case7 first text hend front behind heq ih =>
    cases h
    rw [List.cons_append, skipGap, ih heq]
    intro other hfirst hother
    obtain ⟨further, rfl⟩ := exists_cons_of_append_stop (by decide) hother
    exact hend further hfirst rfl
  | case8 place => cases h

theorem skipGap_line {comment rest : List Char} (hcomment : '\n' ∉ comment)
    (hrest : rest.head? = some '\n') :
    skipGap .line (comment ++ rest) =
      (comment ++ (skipGap .blank rest).1, (skipGap .blank rest).2) := by
  induction comment with
  | nil =>
    obtain ⟨further, rfl⟩ := List.head?_eq_some_iff.mp hrest
    rw [List.nil_append, skipGap_of_ne (by decide)]
    rfl
  | cons c comment ih =>
    obtain ⟨hne, hcomment⟩ := not_or.mp (mt List.mem_cons.mpr hcomment)
    rw [List.cons_append, skipGap, if_neg (Ne.symm hne), ih hcomment]
    rfl

/-- The character does not start the end mark of the comment that it stands in. -/
theorem KeepsOpen.ne_end {c : Char} {comment rest : List Char} (h : KeepsOpen (c :: comment))
    (hstar : c = '*') : comment ≠ '/' :: rest := by
  rintro rfl
  exact h ⟨[], rest, by rw [hstar]; rfl⟩

theorem KeepsOpen.of_cons {c : Char} {comment : List Char} (h : KeepsOpen (c :: comment)) :
    KeepsOpen comment :=
  fun hinfix => h (List.infix_cons hinfix)

/-- A comment without its end mark takes all of the text. -/
theorem skipGap_open {comment : List Char} (h : KeepsOpen comment) :
    skipGap .block comment = (comment, []) := by
  induction comment with
  | nil => rfl
  | cons c comment ih =>
    rw [skipGap, ih h.of_cons]
    exact fun rest hstar => h.ne_end hstar

theorem skipGap_block {comment rest : List Char} (h : KeepsOpen (comment ++ ['*'])) :
    skipGap .block (comment ++ '*' :: '/' :: rest) =
      (comment ++ '*' :: '/' :: (skipGap .blank rest).1, (skipGap .blank rest).2) := by
  induction comment with
  | nil => rfl
  | cons c comment ih =>
    rw [List.cons_append, skipGap, ih h.of_cons]
    · rfl
    intro further hstar hfurther
    cases comment with
    | nil => cases hfurther
    | cons second comment =>
      rw [List.cons_append, List.cons_append, (List.cons.inj hfurther).1] at h
      exact h.ne_end hstar rfl

/-- White space and comments are cut off in front of any text that ends them in the same way. -/
theorem skipGap_skipped {behind gap : List Char} (rest : List Char) (h : Skipped behind gap)
    (hrest : (∀ c ∈ behind.head?, c = '\n') → rest.head? = some '\n') :
    skipGap .blank (gap ++ rest) = (gap ++ (skipGap .blank rest).1, (skipGap .blank rest).2) := by
  induction h with
  | nil => rfl
  | @blank c gap hblank _ ih =>
    have hslash : c ≠ '/' := ne_of_class hblank (by decide)
    rw [List.cons_append, skipGap_of_ne hslash, if_pos hblank, ih]
    rfl
  | @line comment gap hcomment hline _ ih =>
    have hhead : (gap ++ rest).head? = some '\n' := by
      cases gap with
      | nil => exact hrest hline
      | cons c gap => rw [hline c rfl]; rfl
    rw [List.cons_append, List.cons_append, List.append_assoc, skipGap,
      skipGap_line hcomment hhead, ih]
    simp
  | @block comment gap hcomment _ ih =>
    rw [List.cons_append, List.cons_append, List.append_assoc, List.cons_append, List.cons_append,
      skipGap, skipGap_block hcomment, ih]
    simp

/-! ### Tokens -/

theorem takeWhile_append_stop {property : Char → Bool} (h : property stop = false) :
    (text ++ stop :: more).takeWhile property = text.takeWhile property := by
  rw [List.takeWhile_append, List.takeWhile_cons_of_neg (by rw [h]; decide), List.append_nil]
  split
  · rename_i hlength
    exact ((List.takeWhile_prefix property).eq_of_length hlength).symm
  · rfl

theorem dropWhile_append_stop {property : Char → Bool} (h : property stop = false) :
    (text ++ stop :: more).dropWhile property = text.dropWhile property ++ stop :: more := by
  have hwhole : (text ++ stop :: more).takeWhile property ++
      (text ++ stop :: more).dropWhile property = text ++ stop :: more :=
    List.takeWhile_append_dropWhile
  have htext : text.takeWhile property ++ text.dropWhile property = text :=
    List.takeWhile_append_dropWhile
  rw [takeWhile_append_stop h] at hwhole
  refine List.append_cancel_left (hwhole.trans ?_)
  rw [← List.append_assoc, htext]

/-- The same token with more text behind it. -/
def Lexeme.followed (behind : List Char) (lexeme : Lexeme) : Lexeme :=
  { lexeme with rest := lexeme.rest ++ behind }

theorem Body.exists_of_cons {c : Char} {read value : List Char} {body : Body}
    (h : (body.cons c read).value = .ok value) : ∃ rest, body.value = .ok rest := by
  rw [Body.cons] at h
  cases hvalue : body.value with
  | ok rest => exact ⟨rest, rfl⟩
  | error error =>
    rw [hvalue] at h
    cases h

/-- A string that is closed does not depend on what stands behind it. -/
theorem scanString_of_ok {value : List Char} (other : List Char)
    (h : (scanString text).value = .ok value) :
    scanString ((scanString text).text ++ other) = { scanString text with rest := other } := by
  fun_induction scanString text generalizing value with
  | case1 => cases h
  | case2 rest => rfl
  | case3 rest => cases h
  | case4 => cases h
  | case5 a b c d rest char hchar ih =>
    obtain ⟨_, hvalue⟩ := Body.exists_of_cons h
    simp only [Body.cons, List.cons_append, List.nil_append]
    rw [scanString, hchar, ih hvalue]
    rfl
  | case6 => cases h
  | case7 => cases h
  | case8 c rest _ hcode char hchar ih =>
    obtain ⟨_, hvalue⟩ := Body.exists_of_cons h
    simp only [Body.cons, List.cons_append, List.nil_append]
    rw [scanString, hchar]
    · dsimp only
      rw [ih hvalue]
      rfl
    · exact fun _ _ _ _ _ heq _ => hcode heq
    · exact hcode
  | case9 => cases h
  | case10 c rest hquote hnewline hlast _ _ hescape ih =>
    obtain ⟨_, hvalue⟩ := Body.exists_of_cons h
    have hbackslash : c ≠ '\\' := by
      intro heq
      cases rest with
      | nil => exact hlast heq rfl
      | cons second rest => exact hescape second rest heq rfl
    simp only [Body.cons, List.cons_append, List.nil_append]
    rw [scanString_cons _ hquote hbackslash hnewline, ih hvalue]
    rfl

/-- Only another quote would go on with a string in which two quotes stand for one. -/
theorem scanVerbatim_of_ok {value other : List Char} (hother : other.head? ≠ some '"')
    (h : (scanVerbatim text).value = .ok value) :
    scanVerbatim ((scanVerbatim text).text ++ other) = { scanVerbatim text with rest := other } := by
  fun_induction scanVerbatim text generalizing value with
  | case1 => cases h
  | case2 rest ih =>
    obtain ⟨_, hvalue⟩ := Body.exists_of_cons h
    simp only [Body.cons, List.cons_append, List.nil_append]
    rw [scanVerbatim, ih hvalue]
    rfl
  | case3 rest hquote =>
    rw [List.singleton_append, scanVerbatim]
    rintro further rfl
    exact hother rfl
  | case4 c rest hdouble hquote ih =>
    obtain ⟨_, hvalue⟩ := Body.exists_of_cons h
    simp only [Body.cons, List.cons_append, List.nil_append]
    rw [scanVerbatim, ih hvalue]
    · rfl
    · exact fun _ heq _ => hquote heq
    · exact hquote

/-- Behind a string that is closed no quote stands. -/
theorem scanVerbatim_rest {value : List Char} (h : (scanVerbatim text).value = .ok value) :
    (scanVerbatim text).rest.head? ≠ some '"' := by
  fun_induction scanVerbatim text generalizing value with
  | case1 => cases h
  | case2 rest ih =>
    obtain ⟨_, hvalue⟩ := Body.exists_of_cons h
    exact ih hvalue
  | case3 rest hquote =>
    intro heq
    obtain ⟨further, rfl⟩ := List.head?_eq_some_iff.mp heq
    exact hquote further rfl
  | case4 c rest hdouble hquote ih =>
    obtain ⟨_, hvalue⟩ := Body.exists_of_cons h
    exact ih hvalue

/-- A string token that is no error has a value. -/
theorem Body.exists_of_kind {mark : List Char} {body : Body}
    (h : ∀ error, (body.lexeme mark).kind ≠ .invalid error) : ∃ value, body.value = .ok value := by
  cases hvalue : body.value with
  | ok value => exact ⟨value, rfl⟩
  | error error =>
    refine absurd ?_ (h error)
    rw [Body.lexeme, hvalue]

section Stops

variable (hstop : Stops stop)

include hstop

theorem Stops.cut : Cut (stop :: more) := by
  rintro c ⟨⟩
  exact hstop.part

theorem scanWord_append_stop (mark text : List Char) :
    scanWord mark (text ++ stop :: more) = (scanWord mark text).followed (stop :: more) := by
  rw [scanWord, scanWord, takeWhile_append_stop hstop.part, dropWhile_append_stop hstop.part]
  rfl

theorem scanFraction_append_stop :
    scanFraction (text ++ stop :: more) =
      ((scanFraction text).1, (scanFraction text).2 ++ stop :: more) := by
  have hpoint : (stop :: more).head? ≠ some '.' := fun heq =>
    hstop.ne_mark (by decide) (Option.some.inj heq).symm
  rcases text with - | ⟨c, rest⟩
  · exact scanFraction_of_ne hpoint
  by_cases hc : c = '.'
  · subst hc
    cases rest with
    | nil =>
      rw [List.singleton_append, scanFraction, if_neg (by rw [hstop.digit]; decide)]
      rfl
    | cons c rest =>
      have hdigits : (c :: rest ++ stop :: more).takeWhile isDecimalDigit = _ :=
        takeWhile_append_stop hstop.digit
      have hbehind : (c :: rest ++ stop :: more).dropWhile isDecimalDigit = _ :=
        dropWhile_append_stop hstop.digit
      rw [List.cons_append] at hdigits hbehind
      rw [List.cons_append, List.cons_append, scanFraction, scanFraction, hdigits, hbehind]
      split <;> rfl
  · have hhead (rest : List Char) : (c :: rest).head? ≠ some '.' :=
      fun heq => hc (Option.some.inj heq)
    rw [scanFraction_of_ne (hhead rest), List.cons_append, scanFraction_of_ne (hhead _)]

theorem scanSign_append_stop :
    scanSign (text ++ stop :: more) = ((scanSign text).1, (scanSign text).2 ++ stop :: more) := by
  fun_cases scanSign text with
  | case1 rest => rfl
  | case2 rest => rfl
  | case3 text hplus hminus =>
    rw [scanSign]
    · intro rest heq
      obtain ⟨further, rfl⟩ := exists_cons_of_append_stop (hstop.ne_mark (by decide)) heq
      exact hplus further rfl
    · intro rest heq
      obtain ⟨further, rfl⟩ := exists_cons_of_append_stop (hstop.ne_mark (by decide)) heq
      exact hminus further rfl

theorem scanPower_append_stop :
    scanPower (text ++ stop :: more) =
      (scanPower text).map fun power => { power with rest := power.rest ++ stop :: more } := by
  cases text with
  | nil => exact scanPower_of_cut hstop.cut
  | cons c rest =>
    rw [List.cons_append, scanPower, scanPower]
    split
    · rw [scanSign_append_stop hstop]
      dsimp only
      rw [takeWhile_append_stop hstop.digit, dropWhile_append_stop hstop.digit]
      rfl
    · rfl

def Numeral.followed (behind : List Char) (numeral : Numeral) : Numeral :=
  { numeral with rest := numeral.rest ++ behind }

theorem Numeral.closed_append_stop (numeral : Numeral) (kind : TokenKind) :
    (numeral.followed (stop :: more)).closed kind =
      (numeral.closed kind).followed (stop :: more) := by
  obtain ⟨text, value, isDouble, rest⟩ := numeral
  cases rest with
  | nil => exact closed_of_cut kind hstop.cut
  | cons c rest =>
    simp only [Numeral.closed, Numeral.followed, List.cons_append]
    split <;> rfl

theorem Numeral.lexeme_append_stop (numeral : Numeral) :
    (numeral.followed (stop :: more)).lexeme = numeral.lexeme.followed (stop :: more) := by
  obtain ⟨text, value, isDouble, rest⟩ := numeral
  cases rest with
  | nil =>
    exact (lexeme_of_cut hstop.cut).trans (by cases isDouble <;> rfl)
  | cons c rest =>
    by_cases hlong : (!isDouble && (c == 'L' || c == 'l')) = true
    · simp only [Numeral.lexeme, Numeral.followed, List.cons_append, hlong, if_true]
      rfl
    by_cases hmark : (c == 'D' || c == 'd') = true
    · simp only [Numeral.lexeme, Numeral.followed, List.cons_append, hlong, hmark, if_true]
      exact Numeral.closed_append_stop hstop ⟨text ++ [c], value, isDouble, rest⟩ _
    · simp only [Numeral.lexeme, Numeral.followed, List.cons_append, hlong, hmark]
      exact Numeral.closed_append_stop hstop ⟨text, value, isDouble, c :: rest⟩ _

theorem scanNumber_append_stop (text : List Char) :
    scanNumber (text ++ stop :: more) = (scanNumber text).followed (stop :: more) := by
  unfold scanNumber
  rw [takeWhile_append_stop hstop.digit, dropWhile_append_stop hstop.digit,
    scanFraction_append_stop hstop]
  dsimp only
  rw [scanPower_append_stop hstop]
  cases scanPower (scanFraction (text.dropWhile isDecimalDigit)).2 with
  | none => exact Numeral.lexeme_append_stop hstop ⟨_, _, _, _⟩
  | some power =>
    cases hvalue : power.value with
    | none =>
      simp only [Option.map_some, hvalue]
      rfl
    | some value =>
      simp only [Option.map_some, hvalue]
      exact Numeral.lexeme_append_stop hstop ⟨_, _, _, _⟩

theorem scanMark_append_stop {c : Char} :
    scanMark c (text ++ stop :: more) = (scanMark c text).followed (stop :: more) := by
  have hnot (harrow : ∀ rest, c = '=' → text = '>' :: rest → False) :
      ∀ rest, c = '=' → text ++ stop :: more = '>' :: rest → False := by
    intro rest hequals heq
    obtain ⟨further, rfl⟩ := exists_cons_of_append_stop (hstop.ne_mark (by decide)) heq
    exact harrow further hequals rfl
  fun_cases scanMark c text with
  | case1 rest => rfl
  | case2 _ _ harrow mark hmark =>
    rw [scanMark, hmark]
    · rfl
    · exact hnot harrow
  | case3 _ _ harrow hmark =>
    rw [scanMark, hmark]
    · rfl
    · exact hnot harrow

end Stops

/-- The other text goes on as the first one does, up to a character that stops a token. -/
def Continues (stop : Char) (behind other : List Char) : Prop :=
  ∃ common more, other = common ++ stop :: more ∧
    (behind = common ∨ ∃ further, behind = common ++ stop :: further)

theorem Continues.head?_ne {behind other : List Char} {c : Char} (h : Continues stop behind other)
    (hstop : c ≠ stop) (hbehind : behind.head? ≠ some c) : other.head? ≠ some c := by
  obtain ⟨common, more, rfl, hcommon⟩ := h
  cases common with
  | nil =>
    rw [List.nil_append, List.head?_cons]
    exact fun heq => hstop (Option.some.inj heq).symm
  | cons first common =>
    rcases hcommon with rfl | ⟨further, rfl⟩ <;> exact hbehind

section Continued

variable {read other : List Char} {c : Char} (hstop : Stops stop)

include hstop

omit hstop in
/-- What a scanner that stops in front of the character cuts off stays the same in front of another
text. -/
theorem scan_of_append_stop {scanner : List Char → Lexeme}
    (hscanner : ∀ text more,
      scanner (text ++ stop :: more) = (scanner text).followed (stop :: more))
    (htext : text = read ++ (scanner text).rest) (h : Continues stop (scanner text).rest other) :
    scanner (read ++ other) = { scanner text with rest := other } := by
  obtain ⟨common, more, rfl, hcommon⟩ := h
  rcases hcommon with hcommon | ⟨further, hcommon⟩
  · rw [← List.append_assoc, ← hcommon, ← htext, hscanner]
    rfl
  · rw [hcommon, ← List.append_assoc] at htext
    rw [htext, hscanner] at hcommon ⊢
    have hrest : (scanner (read ++ common)).rest = common := List.append_cancel_right hcommon
    rw [← List.append_assoc, hscanner, Lexeme.followed, hrest]
    rfl

theorem scanAt_of_continues (hvalid : ∀ error, (scanAt text).kind ≠ .invalid error)
    (htext : text = read ++ (scanAt text).rest) (h : Continues stop (scanAt text).rest other) :
    scanAt (read ++ other) = { scanAt text with rest := other } := by
  fun_cases scanAt text with
  | case1 rest =>
    obtain ⟨value, hvalue⟩ := Body.exists_of_kind hvalid
    have hread : read = '"' :: (scanVerbatim rest).text :=
      List.append_cancel_right (htext.symm.trans
        (congrArg ('"' :: ·) (scanVerbatim_append rest).symm))
    have hother : other.head? ≠ some '"' :=
      h.head?_ne (hstop.ne_mark (by decide)) (scanVerbatim_rest hvalue)
    rw [hread, List.cons_append, scanAt, scanVerbatim_of_ok hother hvalue]
    rfl
  | case2 c rest hquote hstart =>
    have hscan : scanAt (c :: rest) = scanWord ['@'] (c :: rest) := by
      rw [scanAt, if_pos hstart]
      exact hquote
    rw [hscan] at htext h
    have hword := scan_of_append_stop (fun _ _ => scanWord_append_stop hstop ['@'] _) htext h
    have hread : read = (c :: rest).takeWhile isIdentifierPart :=
      List.append_cancel_right (htext.symm.trans List.takeWhile_append_dropWhile.symm)
    rw [List.takeWhile_cons_of_pos (isIdentifierPart_of_start hstart)] at hread
    rw [← hword, hread, List.cons_append, scanAt, if_pos hstart]
    exact hquote
  | case3 c rest hquote hstart =>
    rw [scanAt, if_neg hstart] at hvalid
    · exact absurd rfl (hvalid .loneAt)
    · exact hquote
  | case4 => exact absurd rfl (hvalid .loneAt)

/-- A token that is no error is cut off in the same way in front of each text that goes on as the
one behind it, up to a character that stops it. -/
theorem scan_of_continues (hvalid : ∀ error, (scan c text).kind ≠ .invalid error)
    (htext : text = read ++ (scan c text).rest) (h : Continues stop (scan c text).rest other) :
    scan c (read ++ other) = { scan c text with rest := other } := by
  have hfront : c :: text = (c :: read) ++ (scan c text).rest := congrArg (c :: ·) htext
  unfold scan at hvalid htext hfront h ⊢
  split_ifs at hvalid htext hfront h ⊢
  · obtain ⟨value, hvalue⟩ := Body.exists_of_kind hvalid
    have hread : read = (scanString text).text :=
      List.append_cancel_right (htext.symm.trans (scanString_append text).symm)
    rw [hread, scanString_of_ok other hvalue]
    rfl
  · exact scanAt_of_continues hstop hvalid htext h
  · exact scan_of_append_stop (fun _ _ => scanNumber_append_stop hstop _) hfront h
  · exact scan_of_append_stop (fun _ _ => scanWord_append_stop hstop [] _) hfront h
  · exact scan_of_append_stop (fun _ _ => scanMark_append_stop hstop) htext h

end Continued

theorem exists_read (c : Char) (text : List Char) :
    ∃ read, text = read ++ (scan c text).rest ∧ (scan c text).text = c :: read := by
  have happend := scan_append c text
  obtain ⟨first, read, hread⟩ := List.exists_cons_of_ne_nil (scan_text_ne_nil c text)
  rw [hread, List.cons_append] at happend
  obtain ⟨rfl, htext⟩ := List.cons.inj happend
  exact ⟨read, htext.symm, hread⟩

/-- A token that is no error is cut off in the same way where a character follows that stops it. -/
theorem scan_append_stop {c : Char} (hstop : Stops stop) (more : List Char)
    (h : ∀ error, (scan c text).kind ≠ .invalid error) :
    scan c (text ++ stop :: more) = (scan c text).followed (stop :: more) := by
  obtain ⟨read, htext, -⟩ := exists_read c text
  have hscan := scan_of_continues hstop h htext ⟨_, more, rfl, .inl rfl⟩
  rwa [← List.append_assoc, ← htext] at hscan

/-! ### Whole texts -/

/-- Where the last of the tokens stops, or the offset if there is none. -/
def stopOf (offset : Nat) : List Token → Nat
  | [] => offset
  | token :: rest => stopOf token.span.stop rest

/-- What stands behind the last token of the text ends within a block comment. -/
def EndsOpen (offset : Nat) (text : List Char) : Prop :=
  ∃ front gap, text = front ++ gap ∧ LeavesOpen gap ∧
    offset + width front = stopOf offset (tokensFrom offset text)

theorem tokensFrom_of_token {gap rest : List Char} {c : Char} (offset : Nat)
    (h : skipGap .blank text = (gap, c :: rest)) :
    tokensFrom offset text =
      ⟨(scan c rest).kind, ⟨offset + width gap, offset + width gap + width (scan c rest).text⟩⟩ ::
        tokensFrom (offset + width gap + width (scan c rest).text) (scan c rest).rest := by
  rw [tokensFrom]
  split
  · rename_i heq
    rw [h] at heq
    cases heq
  · rename_i heq
    rw [h] at heq
    cases heq
    rfl

theorem tokensFrom_of_gap {gap : List Char} (offset : Nat) (h : skipGap .blank text = (gap, [])) :
    tokensFrom offset text = [] := by
  rw [tokensFrom]
  split
  · rfl
  · rename_i heq
    rw [h] at heq
    cases heq

@[simp]
theorem tokensFrom_nil (offset : Nat) : tokensFrom offset [] = [] :=
  tokensFrom_of_gap offset rfl

theorem append_of_skipGap {gap rest : List Char} {c : Char}
    (h : skipGap .blank text = (gap, c :: rest)) :
    gap ++ (scan c rest).text ++ (scan c rest).rest = text := by
  rw [List.append_assoc, scan_append, ← skipGap_append .blank text, h]

/-- What is skipped in front of a text moves its tokens. -/
theorem tokensFrom_of_skipGap {front rest : List Char} (offset : Nat)
    (h : skipGap .blank text = (front ++ (skipGap .blank rest).1, (skipGap .blank rest).2)) :
    tokensFrom offset text = tokensFrom (offset + width front) rest := by
  rcases hgap : skipGap .blank rest with ⟨gap, behind⟩
  rw [hgap] at h
  cases behind with
  | nil => rw [tokensFrom_of_gap _ h, tokensFrom_of_gap _ hgap]
  | cons c behind =>
    rw [tokensFrom_of_token _ h, tokensFrom_of_token _ hgap, width_append, ← Nat.add_assoc offset]

theorem offset_le_stopOf (offset : Nat) (text : List Char) :
    offset ≤ stopOf offset (tokensFrom offset text) := by
  fun_induction tokensFrom offset text with
  | case1 => exact Nat.le_refl _
  | case2 offset text gap c rest hgap lexeme start stop ih =>
    exact Nat.le_trans (by omega) ih

/-- The first token of a text and the gap in front of it do not matter for its end. -/
theorem endsOpen_iff {offset : Nat} {gap rest : List Char} {c : Char}
    (h : skipGap .blank text = (gap, c :: rest)) :
    EndsOpen offset text ↔
      EndsOpen (offset + width gap + width (scan c rest).text) (scan c rest).rest := by
  have htext := append_of_skipGap h
  rw [EndsOpen, EndsOpen, tokensFrom_of_token offset h, stopOf]
  constructor
  · rintro ⟨front, behind, hsplit, hopen, hstop⟩
    have hle := offset_le_stopOf (offset + width gap + width (scan c rest).text) (scan c rest).rest
    rw [← hstop] at hle
    obtain ⟨further, hfront, hrest⟩ | ⟨further, hfront, hbehind⟩ :=
      List.append_eq_append_iff.mp (htext.trans hsplit)
    · refine ⟨further, behind, hrest, hopen, ?_⟩
      rw [← hstop, hfront, width_append, width_append]
      omega
    · -- The end lies behind the first token, so that nothing of the token is left over.
      have hwidth := congrArg width hfront
      rw [width_append, width_append] at hwidth
      have hnil : further = [] := by
        by_contra hne
        have := width_pos hne
        omega
      subst hnil
      refine ⟨[], behind, hbehind.symm, hopen, ?_⟩
      rw [← hstop]
      simp only [width_nil] at hwidth ⊢
      omega
  · rintro ⟨front, behind, hsplit, hopen, hstop⟩
    refine ⟨gap ++ (scan c rest).text ++ front, behind, ?_, hopen, ?_⟩
    · rw [← htext, hsplit, List.append_assoc _ front]
    · rw [← hstop, width_append, width_append]
      omega

theorem endsOpen_iff_of_gap {offset : Nat} {gap : List Char} (h : skipGap .blank text = (gap, [])) :
    EndsOpen offset text ↔ LeavesOpen text := by
  rw [EndsOpen, tokensFrom_of_gap offset h, stopOf]
  constructor
  · rintro ⟨front, behind, rfl, hopen, hstop⟩
    have hnil : front = [] := by
      by_contra hne
      have := width_pos hne
      omega
    rwa [hnil]
  · exact fun hopen => ⟨[], text, rfl, hopen, rfl⟩

/-- The tokens of a text and of the lines behind it, each in its place. A text without errors that
does not end within a block comment gives what it gives alone. -/
theorem tokensFrom_append_line {offset : Nat} (more : List Char)
    (hvalid : ∀ token ∈ tokensFrom offset text, ∀ error, token.kind ≠ .invalid error)
    (hclosed : ¬EndsOpen offset text) :
    tokensFrom offset (text ++ '\n' :: more) =
      tokensFrom offset text ++ tokensFrom (offset + width text + 1) more := by
  fun_induction tokensFrom offset text with
  | case1 offset text gap hgap =>
    rw [endsOpen_iff_of_gap hgap] at hclosed
    have hskipped := isGap_skipGap text
    have htext := skipGap_append .blank text
    rw [hgap] at hskipped htext
    rw [List.append_nil] at htext
    subst htext
    have hline : skipGap .blank ('\n' :: more) =
        ('\n' :: (skipGap .blank more).1, (skipGap .blank more).2) := skipGap_of_ne (by decide)
    have hrest : skipGap .blank (gap ++ '\n' :: more) =
        (gap ++ ['\n'] ++ (skipGap .blank more).1, (skipGap .blank more).2) := by
      rw [skipGap_skipped _ (hskipped.resolve_right fun h => hclosed h.2) fun _ => rfl, hline,
        List.append_assoc, List.singleton_append]
    rw [tokensFrom_of_skipGap offset hrest, width_append]
    rfl
  | case2 offset text gap c rest hgap lexeme start stop ih =>
    rw [endsOpen_iff hgap] at hclosed
    rw [List.forall_mem_cons] at hvalid
    have hscan := scan_append_stop stops_line more hvalid.1
    have hstop : offset + width gap + width (scan c rest).text + width (scan c rest).rest =
        offset + width text := by
      rw [← append_of_skipGap hgap, width_append, width_append]
      omega
    rw [tokensFrom_of_token offset (skipGap_append_of_token hgap), hscan, List.cons_append]
    refine congrArg _ ?_
    rw [← hstop]
    exact ih hvalid.2 hclosed

theorem KeepsOpen.append_line {comment : List Char} (h : KeepsOpen comment)
    (hmore : KeepsOpen ('\n' :: more)) : KeepsOpen (comment ++ '\n' :: more) := by
  induction comment with
  | nil => exact hmore
  | cons c comment ih =>
    refine (ih h.of_cons).cons fun hstar hslash => ?_
    obtain ⟨further, heq⟩ := List.head?_eq_some_iff.mp hslash
    obtain ⟨further, hcomment⟩ := exists_cons_of_append_stop (by decide) heq
    exact h.ne_end hstar hcomment

/-- Behind a text that ends within a block comment nothing is read while the comment stays open. -/
theorem tokensFrom_append_open {offset : Nat}
    (hvalid : ∀ token ∈ tokensFrom offset text, ∀ error, token.kind ≠ .invalid error)
    (hopen : EndsOpen offset text) (hmore : KeepsOpen ('\n' :: more)) :
    tokensFrom offset (text ++ '\n' :: more) = tokensFrom offset text := by
  fun_induction tokensFrom offset text with
  | case1 offset text gap hgap =>
    obtain ⟨front, comment, rfl, hcomment, hskipped⟩ := (endsOpen_iff_of_gap hgap).mp hopen
    have hrest := skipGap_skipped ('/' :: '*' :: (comment ++ '\n' :: more)) hskipped
      fun hline => absurd (hline '/' rfl) (by decide)
    rw [skipGap, skipGap_open (hcomment.append_line hmore)] at hrest
    rw [List.append_assoc]
    exact tokensFrom_of_gap offset hrest
  | case2 offset text gap c rest hgap lexeme start stop ih =>
    rw [endsOpen_iff hgap] at hopen
    rw [List.forall_mem_cons] at hvalid
    have hscan := scan_append_stop stops_line more hvalid.1
    rw [tokensFrom_of_token offset (skipGap_append_of_token hgap), hscan]
    exact congrArg _ (ih hvalid.2 hopen)

end Lexer

end MigrationScript
