import MigrationScript.Proofs.Token.Alone
import MigrationScript.Proofs.Token.Literal

namespace MigrationScript

open Lexer

/-- An integer as it is written out. -/
structure IntegerText where
  isNegative : Bool
  digits : List Char
  mark : Option Char
  digits_ne_nil : digits ≠ []
  all_digits : digits.all isDecimalDigit = true
  mark_eq : ∀ c ∈ mark, c = 'L' ∨ c = 'l'

namespace IntegerText

variable (number : IntegerText)

/-- The number that the digits denote. -/
def magnitude : Nat :=
  Nat.ofDigitChars 10 number.digits 0

/-- The number with its sign. -/
def value : Int :=
  if number.isNegative then -(number.magnitude : Int) else number.magnitude

def isLong : Bool :=
  number.mark.isSome

/-- The integer without its sign. -/
def unsigned : List Char :=
  number.digits ++ number.mark.toList

def text : List Char :=
  if number.isNegative then '-' :: number.unsigned else number.unsigned

/-- The source in which the integer stands between two texts. -/
def source (front back : List Char) : String :=
  .ofList (front ++ (number.text ++ back))

/-- The bytes that the integer takes behind the text in front. -/
def span (front : List Char) : Span :=
  ⟨width front, width front + width number.text⟩

/-- The kind of the token of the digits and the mark. -/
def kind : TokenKind :=
  if number.magnitude < UInt64.size then
    if number.isLong then .long number.magnitude else .integer number.magnitude
  else .invalid (if number.isLong then .longTooLarge else .integerTooLarge)

def kinds : List TokenKind :=
  if number.isNegative then [.punctuation .minus, number.kind] else [number.kind]

/-- The token of the digits and the mark where they start at an offset. -/
def token (offset : Nat) : Token :=
  ⟨number.kind, ⟨offset, offset + width number.unsigned⟩⟩

/-- The tokens of the integer where it starts at an offset. -/
def tokens (offset : Nat) : List Token :=
  if number.isNegative then
    [⟨.punctuation .minus, ⟨offset, offset + 1⟩⟩, number.token (offset + 1)]
  else [number.token offset]

/-- A token starts with the integer, and nothing that could be joined to it stands behind it. -/
structure StandsBetween (front back : List Char) : Prop where
  starts : ∃ token ∈ tokenize (number.source front back), token.kind ≠ .endOfInput ∧
    token.span.start = width front
  apart : Apart back

variable {number} {front back : List Char} {offset : Nat}

/-! ### The token of the digits -/

theorem integer_eq (numeral : Numeral) :
    numeral.integer =
      if numeral.value.significand < UInt64.size then .integer numeral.value.significand
      else .invalid .integerTooLarge := by
  unfold Numeral.integer Numeral.word?
  split_ifs <;> rfl

theorem long_eq (numeral : Numeral) :
    numeral.long =
      if numeral.value.significand < UInt64.size then .long numeral.value.significand
      else .invalid .longTooLarge := by
  unfold Numeral.long Numeral.word?
  split_ifs <;> rfl

/-- The digits and the mark are one token, whatever it is. -/
theorem scanNumber_unsigned (hback : Apart back) :
    scanNumber (number.unsigned ++ back) = ⟨number.kind, number.unsigned, back⟩ := by
  have hvalue : (Decimal.ofDigits number.digits [] 0).significand = number.magnitude := by
    rw [Decimal.ofDigits, List.append_nil]
    rfl
  unfold unsigned kind isLong
  cases hmark : number.mark with
  | none =>
    rw [Option.toList_none, List.append_nil, scanNumber_integer number.all_digits hback,
      integer_eq, hvalue]
    rfl
  | some c =>
    rw [Option.toList_some, List.append_assoc, List.singleton_append,
      scanNumber_long number.all_digits (number.mark_eq c hmark), long_eq, hvalue]
    rfl

theorem exists_digit (number : IntegerText) :
    ∃ c rest, number.unsigned = c :: rest ∧ isDecimalDigit c = true := by
  have hdigits := number.all_digits
  unfold unsigned
  cases h : number.digits with
  | nil => exact absurd h number.digits_ne_nil
  | cons c rest =>
    rw [h, List.all_cons, Bool.and_eq_true] at hdigits
    exact ⟨c, rest ++ number.mark.toList, rfl, hdigits.1⟩

/-- In front of a digit there is no gap. -/
theorem skipGap_of_digit {c : Char} (rest : List Char) (hdigit : isDecimalDigit c = true) :
    skipGap .blank (c :: rest) = ([], c :: rest) := by
  have hblank := isBlank_of_isIdentifierPart (isIdentifierPart_of_isDecimalDigit hdigit)
  rw [skipGap_of_ne (ne_of_class hdigit (by decide)), hblank]
  rfl

theorem tokensFrom_unsigned (hback : Apart back) (offset : Nat) :
    tokensFrom offset (number.unsigned ++ back) =
      number.token offset :: tokensFrom (offset + width number.unsigned) back := by
  obtain ⟨c, rest, hunsigned, hdigit⟩ := number.exists_digit
  have hscan : scan c (rest ++ back) = ⟨number.kind, number.unsigned, back⟩ := by
    rw [scan_digit _ hdigit, ← List.cons_append, ← hunsigned, scanNumber_unsigned hback]
  have htext : number.unsigned ++ back = c :: (rest ++ back) := by
    rw [hunsigned, List.cons_append]
  rw [htext, tokensFrom_of_token offset (skipGap_of_digit _ hdigit), hscan]
  rfl

/-- The integer has its own tokens in front of a text that is not joined to it. -/
theorem tokensFrom_text (hback : Apart back) (offset : Nat) :
    tokensFrom offset (number.text ++ back) =
      number.tokens offset ++ tokensFrom (offset + width number.text) back := by
  unfold text tokens
  cases number.isNegative with
  | false => exact tokensFrom_unsigned hback offset
  | true =>
    have hgap : skipGap .blank ('-' :: (number.unsigned ++ back)) =
        ([], '-' :: (number.unsigned ++ back)) := rfl
    have hwidth : offset + width ('-' :: number.unsigned) =
        offset + 1 + width number.unsigned := by
      rw [width_cons, ← Nat.add_assoc]
      rfl
    rw [if_pos rfl, if_pos rfl, hwidth, List.cons_append, tokensFrom_of_token offset hgap,
      scan_mark rfl (by decide)]
    exact congrArg _ (tokensFrom_unsigned hback (offset + 1))

/-! ### The tokens of the integer -/

theorem tokens_ne_nil : number.tokens offset ≠ [] := by
  unfold tokens
  split_ifs <;> exact List.cons_ne_nil _ _

theorem map_kind_tokens : (number.tokens offset).map (·.kind) = number.kinds := by
  unfold tokens kinds
  split_ifs <;> rfl

theorem hull_tokens : hull (number.tokens (width front)) = number.span front := by
  unfold tokens span text
  split_ifs
  · rw [width_cons, ← Nat.add_assoc]
    rfl
  · rfl

/-- The source is cut where the integer starts and where it ends. -/
theorem tokensFrom_source (h : number.StandsBetween front back) :
    tokensFrom 0 (number.source front back).toList =
      tokensFrom 0 front ++ (number.tokens (width front) ++
        tokensFrom (width front + width number.text) back) := by
  obtain ⟨token, hmem, hkind, hstart⟩ := h.starts
  have htoken := mem_tokensFrom_of_mem_tokenize hmem hkind
  rw [source, String.toList_ofList] at htoken ⊢
  rw [← Nat.zero_add (width front)] at hstart
  rw [tokensFrom_of_starts htoken hstart, Nat.zero_add, tokensFrom_text h.apart]

end IntegerText

end MigrationScript
