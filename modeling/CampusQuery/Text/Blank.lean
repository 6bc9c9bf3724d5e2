import CampusQuery.Text.Ranges

/-!
# White space

A text is blank when it holds nothing but white space, in the sense of the Unicode
property: twenty-five characters. The zero-width space is not among them.
-/

namespace CampusQuery.Text

/-- The characters with the property White_Space. -/
def whiteSpace : Ranges := [
  (0x9, 0xD), (0x20, 0x20), (0x85, 0x85), (0xA0, 0xA0), (0x1680, 0x1680),
  (0x2000, 0x200A), (0x2028, 0x2029), (0x202F, 0x202F), (0x205F, 0x205F), (0x3000, 0x3000)]

/-- Whether a character is white space. -/
def isBlank (character : Char) : Bool := whiteSpace.has character

/-- Whether a text holds nothing but white space; the empty text does. -/
def allBlank (text : String) : Bool := text.toList.all isBlank

end CampusQuery.Text
