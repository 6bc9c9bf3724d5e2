import CampusQuery.Text.Printable

/-!
# Quoted text

A text is quoted for a message: in double quotes, with a backslash before a quote
or a backslash, letters for the tab, the two line ends and the null character,
and the code point in hexadecimal for any other character that shows nothing of
itself.
-/

namespace CampusQuery.Text

/-- A character as it stands inside quotes. -/
def quotedCharacter (character : Char) : List Char :=
  if character = '\x00' then ['\\', '0']
  else if character = '\t' then ['\\', 't']
  else if character = '\n' then ['\\', 'n']
  else if character = '\r' then ['\\', 'r']
  else if character = '"' || character = '\\' then ['\\', character]
  else if unprintable.has character then
    ['\\', 'u', '\x7b'] ++ Nat.toDigits 16 character.toNat ++ ['\x7d']
  else [character]

/-- The text in quotes. -/
def quoted (text : String) : String :=
  String.ofList (['"'] ++ text.toList.flatMap quotedCharacter ++ ['"'])

end CampusQuery.Text
