import CampusQuery.Fault

/-!
# Patterns

A pattern is a text with a star in front, a star behind, both or neither. A star
stands for any text, the empty one included; everything between the stars stands
for itself. A star anywhere else makes the text no pattern.
-/

namespace CampusQuery

/-- A body with or without a star on either side. -/
structure Pattern where
  leading : Bool
  body : List Char
  trailing : Bool
deriving DecidableEq

namespace Pattern

/-- The wildcard. -/
def star : Char := '*'

/-- Reads a pattern. A star in front is taken off before the one behind is looked
for, so that a single star is a leading one. -/
def read (raw : String) : Except Fault Pattern :=
  let leading := raw.toList.head? == some star
  let rest := if leading then raw.toList.tail else raw.toList
  let trailing := rest.getLast? == some star
  let body := if trailing then rest.dropLast else rest
  if body.contains star then .error (.innerStar raw) else .ok ⟨leading, body, trailing⟩

/-- Whether the part occurs somewhere in the text. -/
def occurs (part : List Char) : List Char → Bool
  | [] => part.isEmpty
  | character :: rest => part.isPrefixOf (character :: rest) || occurs part rest

/-- Whether the text matches: it is the body, with any text in the place of each
star. -/
def accepts (pattern : Pattern) (text : String) : Bool :=
  match pattern.leading, pattern.trailing with
  | false, false => text.toList == pattern.body
  | false, true => pattern.body.isPrefixOf text.toList
  | true, false => pattern.body.isSuffixOf text.toList
  | true, true => occurs pattern.body text.toList

end Pattern

end CampusQuery
