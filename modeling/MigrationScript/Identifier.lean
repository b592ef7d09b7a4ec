import MigrationScript.Text.Alphabetic
import MigrationScript.Text.Numeric
import MigrationScript.Token.Keyword

namespace MigrationScript

def isIdentifierStart (c : Char) : Bool :=
  isAlphabetic c || c == '_'

def isIdentifierPart (c : Char) : Bool :=
  isAlphabetic c || isNumeric c || c == '_'

theorem isIdentifierPart_of_start {c : Char} (h : isIdentifierStart c = true) :
    isIdentifierPart c = true := by
  simp only [isIdentifierStart, isIdentifierPart, Bool.or_eq_true] at h ⊢
  exact h.imp_left .inl

namespace Identifier

def isWord : List Char → Bool
  | [] => false
  | c :: cs => isIdentifierStart c && cs.all isIdentifierPart

def isReserved (name : String) : Bool :=
  (Keyword.ofText? name).isSome

/-- Whether a name can be written as it is. -/
def isValid (name : String) : Bool :=
  isWord name.toList && !isReserved name

/-- The characters of a column name that an identifier can hold, behind an underscore if they do not
start like an identifier. -/
def derive (name : String) : String :=
  let kept := name.toList.filter isIdentifierPart
  .ofList (if isWord kept then kept else '_' :: kept)

/-- The written form: a reserved word is marked as a name. -/
def render (name : String) : String :=
  if isReserved name then s!"@{name}" else name

theorem isValid_iff {name : String} :
    isValid name = true ↔ isWord name.toList = true ∧ isReserved name = false := by
  simp [isValid]

theorem isWord_derive (name : String) : isWord (derive name).toList = true := by
  have hall : (name.toList.filter isIdentifierPart).all isIdentifierPart = true := by
    simp [List.all_eq_true]
  rw [derive, String.toList_ofList]
  split
  · assumption
  · rw [isWord, hall]
    decide

end Identifier

end MigrationScript
