/-!
# Parts of a text

A text is cut at every separator, or at the first one alone.
-/

namespace CampusQuery.Text

/-- The parts of a text between separators; one more than there are separators. -/
def split (separator : Char) : List Char → List (List Char)
  | [] => [[]]
  | character :: rest =>
    if character = separator then [] :: split separator rest
    else match split separator rest with
      | [] => [[character]]
      | part :: parts => (character :: part) :: parts

/-- What stands before the first separator and what stands after it. -/
def cut? (separator : Char) : List Char → Option (List Char × List Char)
  | [] => none
  | character :: rest =>
    if character = separator then some ([], rest)
    else (cut? separator rest).map fun (before, after) => (character :: before, after)

end CampusQuery.Text
