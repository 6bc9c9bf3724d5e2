import CampusQuery.Json.Basic
import CampusQuery.Number.Shortest

/-!
# Writing JSON

Numbers are written with the fewest digits that identify them, in positional
notation from 10^-5 up to 10^16 and with a signed exponent outside that range.
Texts are quoted with as few escapes as the grammar allows. A value is written
either without any white space or over several lines, with two spaces for each
level.
-/

namespace CampusQuery

namespace Scientific

/-- The exponents of the leading digit for which notation is positional. -/
def positionalFrom : Int := -5

/-- The first exponent of the leading digit that is too large for positional
notation. -/
def positionalBelow : Int := 16

/-- The digits with the exponent of their leading digit. Positional notation always
has a fraction; the other form has one only if there is a second digit, and always
a sign in its exponent. -/
def spell (decimal : Scientific) : List Char :=
  let digits := Nat.toDigits 10 decimal.digits
  let leading := decimal.exponent + digits.length - 1
  if positionalFrom ≤ leading && leading < positionalBelow then
    if leading < 0 then
      ['0', '.'] ++ List.replicate (-leading - 1).toNat '0' ++ digits
    else if 0 ≤ decimal.exponent then
      digits ++ List.replicate decimal.exponent.toNat '0' ++ ['.', '0']
    else
      digits.take (leading + 1).toNat ++ ['.'] ++ digits.drop (leading + 1).toNat
  else
    let fraction := digits.drop 1
    digits.take 1 ++ (if fraction.isEmpty then [] else '.' :: fraction) ++
      ['e', if leading < 0 then '-' else '+'] ++ Nat.toDigits 10 leading.natAbs

end Scientific

namespace Numeral

/-- The digits of a whole number. -/
def spellInt (value : Int) : List Char :=
  (if value < 0 then ['-'] else []) ++ Nat.toDigits 10 value.natAbs

/-- A number as it is written. -/
def spell : Numeral → List Char
  | .integer value => spellInt value
  | .real (.finite negative units _) =>
    (if negative then ['-'] else []) ++ (Scientific.shortest .toEven units).spell
  | .real _ => ['n', 'u', 'l', 'l']

end Numeral

namespace Json

/-- A character as it stands in a quoted text. -/
def spellCharacter (character : Char) : List Char :=
  if character = '"' || character = '\\' then ['\\', character]
  else if character = '\x08' then ['\\', 'b']
  else if character = '\x0c' then ['\\', 'f']
  else if character = '\n' then ['\\', 'n']
  else if character = '\r' then ['\\', 'r']
  else if character = '\t' then ['\\', 't']
  else if character < ' ' then
    ['\\', 'u', '0', '0', (character.toNat / 16).digitChar, (character.toNat % 16).digitChar]
  else [character]

/-- A quoted text. -/
def spellText (text : String) : List Char :=
  ['"'] ++ text.toList.flatMap spellCharacter ++ ['"']

mutual

/-- A value without white space. -/
def spell : Json → List Char
  | .null => ['n', 'u', 'l', 'l']
  | .bool true => ['t', 'r', 'u', 'e']
  | .bool false => ['f', 'a', 'l', 's', 'e']
  | .number numeral => numeral.spell
  | .text value => spellText value
  | .array items => ['['] ++ spellItems items ++ [']']
  | .object members => ['\x7b'] ++ spellMembers members ++ ['\x7d']
termination_by structural value => value

/-- Items with commas between them. -/
def spellItems : List Json → List Char
  | [] => []
  | [item] => spell item
  | item :: rest => spell item ++ [','] ++ spellItems rest
termination_by structural items => items

/-- Members with commas between them. -/
def spellMembers : List (String × Json) → List Char
  | [] => []
  | [(name, item)] => spellText name ++ [':'] ++ spell item
  | (name, item) :: rest => spellText name ++ [':'] ++ spell item ++ [','] ++ spellMembers rest
termination_by structural members => members

end

/-- A new line with the indentation of a level. -/
def newLine (level : Nat) : List Char := '\n' :: List.replicate (2 * level) ' '

mutual

/-- A value over several lines, starting at a level of indentation. Arrays and
objects that hold nothing stay on one line. -/
def layOut (level : Nat) : Json → List Char
  | .array [] => ['[', ']']
  | .array items => ['['] ++ layOutItems (level + 1) items ++ newLine level ++ [']']
  | .object [] => ['\x7b', '\x7d']
  | .object members => ['\x7b'] ++ layOutMembers (level + 1) members ++ newLine level ++ ['\x7d']
  | .null => ['n', 'u', 'l', 'l']
  | .bool true => ['t', 'r', 'u', 'e']
  | .bool false => ['f', 'a', 'l', 's', 'e']
  | .number numeral => numeral.spell
  | .text value => spellText value
termination_by structural value => value

/-- Items on lines of their own, with commas between them. -/
def layOutItems (level : Nat) : List Json → List Char
  | [] => []
  | [item] => newLine level ++ layOut level item
  | item :: rest => newLine level ++ layOut level item ++ [','] ++ layOutItems level rest
termination_by structural items => items

/-- Members on lines of their own, with commas between them. -/
def layOutMembers (level : Nat) : List (String × Json) → List Char
  | [] => []
  | [(name, item)] => newLine level ++ spellText name ++ [':', ' '] ++ layOut level item
  | (name, item) :: rest =>
    newLine level ++ spellText name ++ [':', ' '] ++ layOut level item ++ [','] ++
      layOutMembers level rest
termination_by structural members => members

end

/-- The text of a value without white space. -/
def toText (value : Json) : String := String.ofList value.spell

/-- The text of a value over several lines. -/
def toLines (value : Json) : String := String.ofList (value.layOut 0)

end Json

end CampusQuery
