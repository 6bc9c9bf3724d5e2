/-!
# Classes of characters

A class of characters is given by ranges of code points with both ends included.
The classes of this library are those of Unicode 17.0.
-/

namespace CampusQuery.Text

/-- A class of characters: ranges of code points, ascending and apart. -/
abbrev Ranges := List (Nat × Nat)

/-- Whether the character lies in one of the ranges. -/
def Ranges.has (ranges : Ranges) (character : Char) : Bool :=
  ranges.any fun range => range.1 ≤ character.toNat && character.toNat ≤ range.2

end CampusQuery.Text
