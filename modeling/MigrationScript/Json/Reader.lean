import MigrationScript.Double.Nearest
import MigrationScript.FixedWidth
import MigrationScript.Json.Format

namespace MigrationScript

namespace Json

/-- What is asked of a value: `full` if it is wanted, `form` if it is passed over. Then it may nest
to any depth, hold numbers that are not finite, and strings with surrogates that stand for
nothing. -/
inductive Check
  | full
  | form
  deriving DecidableEq

def skipSpace (text : List Char) : List Char :=
  text.dropWhile isSpace

/-- The number that digits stand for: an integer if it is written without a point and a power and
fits 64 bits, signed or not. A negative zero is no integer. -/
def number (check : Check) (negative : Bool) (whole fraction : List Char) (power : Int)
    (isPlain : Bool) : Option Json :=
  let value : Int := Nat.ofDigitChars 10 whole 0
  if isPlain && !negative && (uint64? value).isSome then some (.integer value)
  else if isPlain && negative && 0 < value && (int64? (-value)).isSome then
    some (.integer (-value))
  else
    let nearest := Double.ofDecimal negative (.ofDigits whole fraction power)
    if check == .full && nearest.isInfinite then none else some (.real nearest)

/-- Digits, at least one. -/
def readDigits? (text : List Char) : Option (List Char × List Char) :=
  let digits := text.takeWhile isDecimalDigit
  if digits.isEmpty then none else some (digits, text.dropWhile isDecimalDigit)

/-- No digit follows a leading zero. -/
def readWhole? (text : List Char) : Option (List Char × List Char) :=
  match text with
  | '0' :: rest => some (['0'], rest)
  | text => readDigits? text

def readFraction? (text : List Char) : Option (List Char × List Char) :=
  match text with
  | '.' :: rest => readDigits? rest
  | text => some ([], text)

/-- A minus, a plus or no sign. -/
def readSign (text : List Char) : Bool × List Char :=
  match text with
  | '-' :: rest => (true, rest)
  | '+' :: rest => (false, rest)
  | text => (false, text)

/-- The power of ten behind a number: nothing, or a mark, a sign and digits. -/
def readPower? (text : List Char) : Option (Option Int × List Char) :=
  match text with
  | c :: rest =>
    if c = 'e' ∨ c = 'E' then do
      let (negative, rest) := readSign rest
      let (digits, rest) ← readDigits? rest
      let value : Int := Nat.ofDigitChars 10 digits 0
      return (some (if negative then -value else value), rest)
    else some (none, c :: rest)
  | [] => some (none, [])

/-- A number without its sign. -/
def readNumber? (check : Check) (negative : Bool) (text : List Char) :
    Option (Json × List Char) := do
  let (whole, rest) ← readWhole? text
  let (fraction, rest) ← readFraction? rest
  let (power, rest) ← readPower? rest
  let value ←
    number check negative whole fraction (power.getD 0) (fraction.isEmpty && power.isNone)
  return (value, rest)

def readString? (check : Check) : List Char → Option (List Char × List Char)
  | '"' :: rest => some ([], rest)
  | '\\' :: 'u' :: a :: b :: c :: d :: rest =>
    match hexValue4? a b c d with
    | none => none
    | some code =>
      match scalar? code with
      | some char => (readString? check rest).map fun (text, rest) => (char :: text, rest)
      | none =>
        match check, rest with
        | .form, rest => readString? check rest
        | .full, '\\' :: 'u' :: e :: f :: g :: h :: rest =>
          match (hexValue4? e f g h).bind (paired? code) with
          | some char => (readString? check rest).map fun (text, rest) => (char :: text, rest)
          | none => none
        | .full, _ => none
  | '\\' :: c :: rest =>
    match escaped? c with
    | some char => (readString? check rest).map fun (text, rest) => (char :: text, rest)
    | none => none
  | c :: rest =>
    if c.toNat < 0x20 || c == '\\' then none
    else (readString? check rest).map fun (text, rest) => (c :: text, rest)
  | [] => none

/-- A number with a sign or without one. -/
def readSigned? (check : Check) (text : List Char) : Option (Json × List Char) :=
  match text with
  | '-' :: rest => readNumber? check true rest
  | text => readNumber? check false text

/-- A value that holds no other values. -/
def readScalar? (check : Check) (text : List Char) : Option (Json × List Char) :=
  match text with
  | 'n' :: 'u' :: 'l' :: 'l' :: rest => some (.null, rest)
  | 't' :: 'r' :: 'u' :: 'e' :: rest => some (.bool true, rest)
  | 'f' :: 'a' :: 'l' :: 's' :: 'e' :: rest => some (.bool false, rest)
  | '"' :: rest => (readString? check rest).map fun (text, rest) => (.string (.ofList text), rest)
  | text => readSigned? check text

/-- The items of an array, at least one, up to its closing bracket. -/
def readItems? (read : List Char → Option (Json × List Char)) :
    Nat → List Char → Option (List Json × List Char)
  | 0, _ => none
  | fuel + 1, text =>
    match read text with
    | none => none
    | some (item, rest) =>
      match skipSpace rest with
      | ',' :: rest => (readItems? read fuel rest).map fun (items, rest) => (item :: items, rest)
      | ']' :: rest => some ([item], rest)
      | _ => none

/-- The members of an object, at least one, up to its closing brace. How a value is read may depend
on its name. -/
def readMembers? (names : Check) (read : String → List Char → Option (Json × List Char)) :
    Nat → List Char → Option (List (String × Json) × List Char)
  | 0, _ => none
  | fuel + 1, text =>
    match skipSpace text with
    | '"' :: rest =>
      match readString? names rest with
      | none => none
      | some (name, rest) =>
        match skipSpace rest with
        | ':' :: rest =>
          match read (.ofList name) rest with
          | none => none
          | some (value, rest) =>
            match skipSpace rest with
            | ',' :: rest =>
              (readMembers? names read fuel rest).map fun (members, rest) =>
                ((.ofList name, value) :: members, rest)
            | '\x7d' :: rest => some ([(.ofList name, value)], rest)
            | _ => none
        | _ => none
    | _ => none

def readArray? (read : List Char → Option (Json × List Char)) (text : List Char) :
    Option (Json × List Char) :=
  match skipSpace text with
  | ']' :: rest => some (.array [], rest)
  | _ => (readItems? read text.length text).map fun (items, rest) => (.array items, rest)

def readObject? (names : Check) (read : String → List Char → Option (Json × List Char))
    (text : List Char) : Option (Json × List Char) :=
  match skipSpace text with
  | '\x7d' :: rest => some (.object [], rest)
  | _ =>
    (readMembers? names read text.length text).map fun (members, rest) => (.object members, rest)

/-- A value with arrays and objects in each other up to a depth. -/
def readValue? (check : Check) : Nat → List Char → Option (Json × List Char)
  | 0, text => readScalar? check (skipSpace text)
  | depth + 1, text =>
    match skipSpace text with
    | '[' :: rest => readArray? (readValue? check depth) rest
    | '\x7b' :: rest => readObject? check (fun _ => readValue? check depth) rest
    | text => readScalar? check text

/-- The value, if only space follows it. -/
def complete? (read : Option (Json × List Char)) : Option Json :=
  match read with
  | some (value, rest) => if (skipSpace rest).isEmpty then some value else none
  | none => none

def read? (text : String) : Option Json :=
  complete? (readValue? .full maxDepth text.toList)

/-- A text that is one JSON object or array. The members of an object under other than the known
names are read for their form alone. -/
def readRecord? (known : List String) (text : String) : Option Json :=
  let member (name : String) (text : List Char) :=
    if known.contains name then readValue? .full (maxDepth - 1) text
    else readValue? .form text.length text
  match skipSpace text.toList with
  | '\x7b' :: rest => complete? (readObject? .full member rest)
  | '[' :: rest => complete? (readArray? (readValue? .full (maxDepth - 1)) rest)
  | _ => none

end Json

end MigrationScript
