import MigrationScript.Json.Codec
import MigrationScript.Json.Grammar

/-!
# Exchange by text

The library that writes and reads JSON text is a parameter, as the one that makes the codecs is.
`TextFormat.Laws` says that it writes and reads the texts of JSON, within the limits that it has for
nesting and for integers. Nothing is laid down about how it rounds.
-/

namespace MigrationScript

/-- The values nested in each other that a text may have. -/
def Json.maxDepth : Nat := 127

/-- Writing and reading by way of codecs. A number with a fraction or a power of ten stands for the
double that `number` makes of it. -/
structure TextFormat where
  literal : Double → List Char
  number : List Char → Option Double
  write : {α : Type} → Codec α → α → String
  read : {α : Type} → Codec α → String → Option α

namespace TextFormat

structure Laws (format : TextFormat) : Prop where
  isText_write : ∀ {α : Type} (codec : Codec α) (value : α),
    Json.IsText (fun number chars => chars = format.literal number)
      (codec.encode value).asWritten (format.write codec value).toList
  read_of_isText : ∀ {α : Type} (codec : Codec α) {json : Json} {text : String},
    Json.IsText (fun number chars => format.number chars = some number) json text.toList →
      json.Fits (fun _ => True) Json.maxDepth → format.read codec text = codec.decode json

/-- The double is read back from the text that is written for it. -/
def ReadsBack (format : TextFormat) (number : Double) : Prop :=
  format.number (format.literal number) = some number

end TextFormat

end MigrationScript
