/-!
# Stable sorting

Items are sorted by a comparison that says of two items whether the first may stand
before the second. As long as the comparison is transitive, there is one stable
arrangement. A comparison that is not contradicts itself, and then nothing is
promised: a short list is sorted by insertion and comes out in some sequence, and on a
longer one the sort may notice the contradiction and stop. Here it stops on every such
list.
-/

namespace CampusQuery

namespace StableSort

variable {α : Type}

/-- Whether a comparison of items never contradicts itself: what may stand before a
second item may stand before all items that this one may stand before. -/
def agreesOn (le : α → α → Bool) (items : List α) : Bool :=
  items.all fun first => items.all fun second =>
    !le first second || items.all fun third => !le second third || le first third

/-- Places an item behind the last one that may stand before it. The placed items are
given from the last to the first, and so is the result. -/
def place (le : α → α → Bool) (item : α) : List α → List α
  | [] => [item]
  | last :: before =>
    if le last item then item :: last :: before else last :: place le item before

/-- Sorts by placing one item after the other. -/
def byInsertion (le : α → α → Bool) (items : List α) : List α :=
  (items.foldl (fun placed item => place le item placed) []).reverse

/-- The greatest number of items that are always sorted by insertion. -/
def insertionLimit : Nat := 20

/-- The items in order, or none if the sort stops at a contradiction. Of a comparison that
is known to agree with itself it need not be checked. -/
def sort? (known : Bool) (le : α → α → Bool) (items : List α) : Option (List α) :=
  if known || agreesOn le items then some (items.mergeSort le)
  else if items.length ≤ insertionLimit then some (byInsertion le items)
  else none

end StableSort

end CampusQuery
