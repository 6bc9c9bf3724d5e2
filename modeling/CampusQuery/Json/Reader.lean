import CampusQuery.Json.Written

/-!
# Reading JSON

A text is read by descent into the tree of what is written. Every function takes
the characters that are left and returns what it read with the characters after
it. Arrays and objects descend with a count that falls at every step; twice the
length of the text is more than any text can use, since each step but one in two
takes a character off.
-/

namespace CampusQuery

namespace Written

/-- The white space of the grammar. -/
def isSpace (character : Char) : Bool :=
  character = ' ' || character = '\n' || character = '\t' || character = '\r'

/-- What follows the space at the start of a text. -/
def skipSpace (input : List Char) : List Char := input.dropWhile isSpace

/-- The value of a hexadecimal digit. -/
def hexDigit? (character : Char) : Option Nat :=
  if '0' ≤ character && character ≤ '9' then some (character.toNat - '0'.toNat)
  else if 'a' ≤ character && character ≤ 'f' then some (character.toNat - 'a'.toNat + 10)
  else if 'A' ≤ character && character ≤ 'F' then some (character.toNat - 'A'.toNat + 10)
  else none

/-- The unit that four hexadecimal digits spell. -/
def unit? (first second third fourth : Char) : Option TextPiece := do
  let upper := (← hexDigit? first) * 16 + (← hexDigit? second)
  let lower := (← hexDigit? third) * 16 + (← hexDigit? fourth)
  return .unit (upper * 256 + lower)

/-- The character that a letter after a backslash stands for. -/
def escaped? : Char → Option Char
  | '"' => some '"'
  | '\\' => some '\\'
  | '/' => some '/'
  | 'b' => some '\x08'
  | 'f' => some '\x0c'
  | 'n' => some '\n'
  | 'r' => some '\r'
  | 't' => some '\t'
  | _ => none

/-- Reads a text up to its closing quote, the opening one being behind. Characters
below the space must be escaped. -/
def readText : List Char → Option (WrittenText × List Char)
  | [] => none
  | '"' :: rest => some ([], rest)
  | '\\' :: 'u' :: first :: second :: third :: fourth :: rest => do
    let piece ← unit? first second third fourth
    let (pieces, rest) ← readText rest
    return (piece :: pieces, rest)
  | '\\' :: letter :: rest => do
    let character ← escaped? letter
    let (pieces, rest) ← readText rest
    return (.character character :: pieces, rest)
  | character :: rest =>
    if character < ' ' || character = '\\' then none
    else do
      let (pieces, rest) ← readText rest
      return (.character character :: pieces, rest)

/-- Splits off the digits in front. -/
def splitDigits (input : List Char) : List Char × List Char :=
  (input.takeWhile Char.isDigit, input.dropWhile Char.isDigit)

/-- Reads the digits before the point: a zero alone, or digits that do not start
with a zero. -/
def readWhole : List Char → Option (List Char × List Char)
  | '0' :: rest => some (['0'], rest)
  | input =>
    match splitDigits input with
    | ([], _) => none
    | (digits, rest) => some (digits, rest)

/-- Reads a point and the digits after it, if there is a point. -/
def readFraction : List Char → Option (List Char × List Char)
  | '.' :: rest =>
    match splitDigits rest with
    | ([], _) => none
    | (digits, rest) => some (digits, rest)
  | input => some ([], input)

/-- Reads the exponent, if there is one: its sign and its digits. -/
def readExponent (input : List Char) : Option (Option (Bool × List Char) × List Char) :=
  match input with
  | mark :: rest =>
    if mark = 'e' || mark = 'E' then
      let (negative, rest) :=
        match rest with
        | '-' :: rest => (true, rest)
        | '+' :: rest => (false, rest)
        | rest => (false, rest)
      match splitDigits rest with
      | ([], _) => none
      | (digits, rest) => some (some (negative, digits), rest)
    else some (none, input)
  | [] => some (none, [])

/-- Reads a number. -/
def readNumber (input : List Char) : Option (WrittenNumber × List Char) := do
  let (negative, rest) :=
    match input with
    | '-' :: rest => (true, rest)
    | rest => (false, rest)
  let (whole, rest) ← readWhole rest
  let (fraction, rest) ← readFraction rest
  let (exponent, rest) ← readExponent rest
  return (⟨negative, whole, fraction, exponent⟩, rest)

mutual

/-- Reads a value, passing over the white space before it. -/
def readValue : Nat → List Char → Option (Written × List Char)
  | 0, _ => none
  | steps + 1, input =>
    match skipSpace input with
    | 'n' :: 'u' :: 'l' :: 'l' :: rest => some (.null, rest)
    | 't' :: 'r' :: 'u' :: 'e' :: rest => some (.bool true, rest)
    | 'f' :: 'a' :: 'l' :: 's' :: 'e' :: rest => some (.bool false, rest)
    | '"' :: rest => (readText rest).map fun (pieces, rest) => (.text pieces, rest)
    | '[' :: rest =>
      match skipSpace rest with
      | ']' :: rest => some (.array [], rest)
      | rest => (readItems steps rest).map fun (items, rest) => (.array items, rest)
    | '\x7b' :: rest =>
      match skipSpace rest with
      | '\x7d' :: rest => some (.object [], rest)
      | rest => (readMembers steps rest).map fun (members, rest) => (.object members, rest)
    | rest => (readNumber rest).map fun (digits, rest) => (.number digits, rest)

/-- Reads the items of an array, at least one, and its closing bracket. -/
def readItems : Nat → List Char → Option (List Written × List Char)
  | 0, _ => none
  | steps + 1, input => do
    let (item, rest) ← readValue steps input
    match skipSpace rest with
    | ',' :: rest =>
      let (items, rest) ← readItems steps rest
      return (item :: items, rest)
    | ']' :: rest => return ([item], rest)
    | _ => none

/-- Reads the members of an object, at least one, and its closing brace. -/
def readMembers : Nat → List Char → Option (List (WrittenText × Written) × List Char)
  | 0, _ => none
  | steps + 1, input => do
    let '"' :: rest := skipSpace input | none
    let (name, rest) ← readText rest
    let ':' :: rest := skipSpace rest | none
    let (item, rest) ← readValue steps rest
    match skipSpace rest with
    | ',' :: rest =>
      let (members, rest) ← readMembers steps rest
      return ((name, item) :: members, rest)
    | '\x7d' :: rest => return ([(name, item)], rest)
    | _ => none

end

/-- Reads a whole text: one value, with white space around it. -/
def read? (input : List Char) : Option Written :=
  match readValue (2 * input.length + 1) input with
  | some (document, rest) => if (skipSpace rest).isEmpty then some document else none
  | none => none

end Written

namespace Json

/-- The deepest nesting of arrays and objects that a text may have. -/
def deepest : Nat := 127

/-- The value of a JSON text. -/
def read? (text : String) : Option Json := do
  (← Written.read? text.toList).value? deepest

end Json

end CampusQuery
