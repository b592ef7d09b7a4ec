import MigrationScript.Json.Basic
import MigrationScript.Text.Hex
import MigrationScript.Text.Integer

/-!
# JSON text

Which texts are texts of a value, apart from how they are written or read. What a number with a
fraction or a power of ten is a text of is left open: which texts a library chooses for doubles, and
how it rounds, is its own.
-/

namespace MigrationScript

namespace Json

def isSpace (c : Char) : Bool :=
  c == ' ' || c == '\t' || c == '\n' || c == '\r'

/-! ### Numbers -/

/-- The digits in front of a point: a zero alone, or digits that do not start with a zero. -/
structure Whole (digits : List Char) : Prop where
  ne_nil : digits ≠ []
  all_digits : digits.all isDecimalDigit = true
  leading : digits = ['0'] ∨ digits.head? ≠ some '0'

/-- Digits behind a point, if there are any. -/
def fractionText : List Char → List Char
  | [] => []
  | digit :: digits => '.' :: digit :: digits

/-- A power of ten: a mark, a sign or none, and digits. -/
inductive IsPower : List Char → Prop
  | intro {mark : Char} {sign digits : List Char} (hmark : mark ∈ ['e', 'E'])
    (hsign : sign ∈ [[], ['+'], ['-']]) (hne : digits ≠ [])
    (hdigits : digits.all isDecimalDigit = true) : IsPower (mark :: (sign ++ digits))

/-- A number with a fraction or a power of ten, or with both. -/
inductive IsReal : List Char → Prop
  | intro {sign whole fraction power : List Char} (hsign : sign ∈ [[], ['-']])
    (hwhole : Whole whole) (hfraction : fraction.all isDecimalDigit = true)
    (hpower : power = [] ∨ IsPower power) (hform : fraction ≠ [] ∨ power ≠ []) :
    IsReal (sign ++ (whole ++ (fractionText fraction ++ power)))

/-! ### Strings -/

/-- The character that a mark behind a backslash stands for. -/
def escaped? (mark : Char) : Option Char :=
  match mark with
  | '"' => some '"'
  | '\\' => some '\\'
  | '/' => some '/'
  | 'b' => some '\x08'
  | 'f' => some '\x0c'
  | 'n' => some '\n'
  | 'r' => some '\r'
  | 't' => some '\t'
  | _ => none

/-- The character that two surrogates stand for. -/
def paired? (high low : Nat) : Option Char :=
  if 0xd800 ≤ high ∧ high < 0xdc00 ∧ 0xdc00 ≤ low ∧ low < 0xe000 then
    scalar? (0x10000 + (high - 0xd800) * 0x400 + (low - 0xdc00))
  else none

/-- The ways to write a character in a string. -/
inductive Escape : Char → List Char → Prop
  | plain {c : Char} (hquote : c ≠ '"') (hbackslash : c ≠ '\\') (hcontrol : ¬c.toNat < 0x20) :
    Escape c [c]
  | short {c mark : Char} (h : escaped? mark = some c) : Escape c ['\\', mark]
  | code {c x₁ x₂ x₃ x₄ : Char} (h : hexValue4? x₁ x₂ x₃ x₄ = some c.toNat) :
    Escape c ['\\', 'u', x₁, x₂, x₃, x₄]
  | pair {c x₁ x₂ x₃ x₄ y₁ y₂ y₃ y₄ : Char} {high low : Nat}
    (hhigh : hexValue4? x₁ x₂ x₃ x₄ = some high) (hlow : hexValue4? y₁ y₂ y₃ y₄ = some low)
    (h : paired? high low = some c) :
    Escape c ['\\', 'u', x₁, x₂, x₃, x₄, '\\', 'u', y₁, y₂, y₃, y₄]

inductive Escaped : List Char → List Char → Prop
  | nil : Escaped [] []
  | cons {c : Char} {text part chars : List Char} (h : Escape c part) (hrest : Escaped text chars) :
    Escaped (c :: text) (part ++ chars)

inductive IsString (value : String) : List Char → Prop
  | intro {chars : List Char} (h : Escaped value.toList chars) :
    IsString value ('"' :: (chars ++ ['"']))

/-- A string with space around it. -/
inductive IsName (value : String) : List Char → Prop
  | intro {before chars after : List Char} (hbefore : before.all isSpace = true)
    (h : IsString value chars) (hafter : after.all isSpace = true) :
    IsName value (before ++ (chars ++ after))

/-! ### Values -/

/-- The texts of a value, where those of the doubles are given. -/
inductive IsText (isNumber : Double → List Char → Prop) : Json → List Char → Prop
  | spaced {json : Json} {before chars after : List Char} (hbefore : before.all isSpace = true)
    (h : IsText isNumber json chars) (hafter : after.all isSpace = true) :
    IsText isNumber json (before ++ (chars ++ after))
  | null : IsText isNumber .null ['n', 'u', 'l', 'l']
  | true : IsText isNumber (.bool true) ['t', 'r', 'u', 'e']
  | false : IsText isNumber (.bool false) ['f', 'a', 'l', 's', 'e']
  | integer (value : Int) : IsText isNumber (.integer value) (integerText value)
  | real {value : Double} {chars : List Char} (hform : IsReal chars) (h : isNumber value chars) :
    IsText isNumber (.real value) chars
  | string {value : String} {chars : List Char} (h : IsString value chars) :
    IsText isNumber (.string value) chars
  | emptyArray {space : List Char} (hspace : space.all isSpace = true) :
    IsText isNumber (.array []) ('[' :: (space ++ [']']))
  | array {parts : List (Json × List Char)} (hne : parts ≠ [])
    (h : ∀ part ∈ parts, IsText isNumber part.1 part.2) :
    IsText isNumber (.array (parts.map (·.1)))
      ('[' :: ([','].intercalate (parts.map (·.2)) ++ [']']))
  | emptyObject {space : List Char} (hspace : space.all isSpace = true) :
    IsText isNumber (.object []) ('\x7b' :: (space ++ ['\x7d']))
  | object {parts : List ((String × Json) × List Char × List Char)} (hne : parts ≠ [])
    (hnames : ∀ part ∈ parts, IsName part.1.1 part.2.1)
    (h : ∀ part ∈ parts, IsText isNumber part.1.2 part.2.2) :
    IsText isNumber (.object (parts.map (·.1)))
      ('\x7b' :: ([','].intercalate (parts.map fun part => part.2.1 ++ ':' :: part.2.2) ++
        ['\x7d']))

end Json

end MigrationScript
