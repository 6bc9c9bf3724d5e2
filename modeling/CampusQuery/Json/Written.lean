import CampusQuery.Json.Basic

/-!
# JSON as it is written

The tree of a JSON text before anything is made of it: numbers by their digits,
texts by the characters and the escaped sixteen-bit units that spell them, members
in the order of writing and with repeated names. Whether a number is in range,
whether units pair up into characters, and what a repeated name means is decided
by who reads the tree, so that a part that nobody reads is held to the grammar
alone.
-/

namespace CampusQuery

/-- One piece of a written text. -/
inductive TextPiece where
  | character (value : Char)
  /-- A sixteen-bit unit, spelled by four hexadecimal digits. -/
  | unit (code : Nat)
deriving DecidableEq

/-- A text as it is written. -/
abbrev WrittenText := List TextPiece

/-- A number as it is written. The lists hold the digits; a number written with
no fraction or no exponent has none of them there. -/
structure WrittenNumber where
  negative : Bool
  whole : List Char
  fraction : List Char
  exponent : Option (Bool × List Char)
deriving DecidableEq

/-- A JSON document as it is written. -/
inductive Written where
  | null
  | bool (value : Bool)
  | number (digits : WrittenNumber)
  | text (pieces : WrittenText)
  | array (items : List Written)
  | object (members : List (WrittenText × Written))

namespace WrittenText

/-- The first unit of a pair. -/
def isHigh (code : Nat) : Bool := 0xD800 ≤ code && code ≤ 0xDBFF

/-- The second unit of a pair. -/
def isLow (code : Nat) : Bool := 0xDC00 ≤ code && code ≤ 0xDFFF

/-- The characters of a written text. A unit of a pair that stands alone spells
no character. -/
def characters? : WrittenText → Option (List Char)
  | [] => some []
  | .character value :: rest => (characters? rest).map (value :: ·)
  | .unit code :: rest =>
    if isHigh code then
      match rest with
      | .unit second :: rest =>
        if isLow second then
          (characters? rest).map
            (Char.ofNat (0x10000 + (code - 0xD800) * 0x400 + (second - 0xDC00)) :: ·)
        else none
      | _ => none
    else if isLow code then none
    else (characters? rest).map (Char.ofNat code :: ·)

/-- The text that is written. -/
def value? (written : WrittenText) : Option String := written.characters?.map String.ofList

end WrittenText

/-- The natural that a list of decimal digits spells. -/
def ofDigits (digits : List Char) : Nat :=
  digits.foldl (fun value digit => 10 * value + (digit.toNat - '0'.toNat)) 0

namespace WrittenNumber

/-- Whether the number is written without fraction and exponent. -/
def isWhole (number : WrittenNumber) : Bool := number.fraction.isEmpty && number.exponent.isNone

/-- The power of ten by which the digits, read as one whole number, are to be
multiplied. -/
def power (number : WrittenNumber) : Int :=
  (match number.exponent with
    | none => 0
    | some (false, digits) => (ofDigits digits : Int)
    | some (true, digits) => -(ofDigits digits : Int)) - number.fraction.length

/-- The nearest binary64 value. That numbers are read as the nearest value is an assumption
about the reader of JSON: one that is made for speed may return a neighbour of the
nearest value where there are many digits. What is proved of texts that are read rests
on it. -/
def toBinary64 (number : WrittenNumber) : Binary64 :=
  Binary64.ofDecimal number.negative (ofDigits (number.whole ++ number.fraction)) number.power

/-- The number that is written, if it is in range. A whole number of more than
sixty-four bits is kept as the nearest binary64 value, and so is a zero with a
minus sign, which no whole number has. -/
def numeral? (number : WrittenNumber) : Option Numeral :=
  let magnitude := ofDigits number.whole
  let whole : Int := if number.negative then -(magnitude : Int) else magnitude
  if number.isWhole && Numeral.holds whole && !(number.negative && magnitude == 0) then
    some (.integer whole)
  else if number.toBinary64.isFinite then some (.real number.toBinary64)
  else none

end WrittenNumber

namespace Written

mutual

/-- The value of a document, in which of two members with one name the later one
counts. Arrays and objects may be nested at most `room` deep. -/
def value? (room : Nat) : Written → Option Json
  | .null => some .null
  | .bool value => some (.bool value)
  | .number digits => digits.numeral?.map .number
  | .text pieces => pieces.value?.map .text
  | .array items =>
    match room with
    | 0 => none
    | room + 1 => (values? room items).map .array
  | .object members =>
    match room with
    | 0 => none
    | room + 1 => (members? room members).map Json.ofMembers
termination_by structural document => document

/-- The values of the items of an array. -/
def values? (room : Nat) : List Written → Option (List Json)
  | [] => some []
  | item :: rest => do return (← value? room item) :: (← values? room rest)
termination_by structural items => items

/-- The names and values of the members of an object. -/
def members? (room : Nat) : List (WrittenText × Written) → Option (List (String × Json))
  | [] => some []
  | (name, item) :: rest => do
    return (← name.value?, ← value? room item) :: (← members? room rest)
termination_by structural members => members

end

end Written

end CampusQuery
