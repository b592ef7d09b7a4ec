namespace MigrationScript

inductive Keyword
  | new
  | true
  | false
  | null
  deriving DecidableEq, Repr

namespace Keyword

def text : Keyword → String
  | .new => "new"
  | .true => "true"
  | .false => "false"
  | .null => "null"

def all : List Keyword :=
  [.new, .true, .false, .null]

def ofText? (text : String) : Option Keyword :=
  all.find? fun keyword => keyword.text == text

theorem ofText?_eq_some_iff {text : String} {keyword : Keyword} :
    ofText? text = some keyword ↔ keyword.text = text := by
  constructor
  · intro h
    have := List.find?_some h
    exact beq_iff_eq.1 this
  · rintro rfl
    cases keyword <;> decide

end Keyword

end MigrationScript
