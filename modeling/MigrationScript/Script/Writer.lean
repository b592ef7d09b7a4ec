import MigrationScript.Script.Layout

namespace MigrationScript

/-- What a writer is told: to write a line, or to indent those that follow a level more or less. -/
inductive Step
  | line (text : List Char)
  | indent
  | dedent

/-- The level of the next line, and the lines written so far. -/
structure Writer where
  level : Nat := 0
  lines : List Line := []

namespace Writer

/-- Where no line is indented, a level less changes nothing. -/
def step (writer : Writer) : Step → Writer
  | .line text => { writer with lines := writer.lines ++ [⟨writer.level, text⟩] }
  | .indent => { writer with level := writer.level + 1 }
  | .dedent => { writer with level := writer.level - 1 }

def run (writer : Writer) (steps : List Step) : Writer :=
  steps.foldl step writer

def text (layout : Layout) (writer : Writer) : List Char :=
  writer.lines.flatMap (·.render layout)

end Writer

end MigrationScript
