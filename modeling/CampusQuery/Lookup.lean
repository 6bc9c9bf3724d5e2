import CampusQuery.Dataset
import CampusQuery.NameMap

/-!
# Finding a dataset

A query is answered from a lookup: a function that finds the dataset of an
identifier, if there is one. A list is looked up from its start; a map finds the
dataset that was written last under the identifier.
-/

namespace CampusQuery

/-- Finds the dataset of an identifier. -/
abbrev Lookup := String → Option Dataset

namespace Lookup

/-- The first dataset of a list with the identifier. -/
def ofList (datasets : List Dataset) : Lookup := fun id => datasets.find? (·.id = id)

/-- The dataset under the identifier in a map. -/
def ofMap (datasets : NameMap Dataset) : Lookup := datasets.get?

/-- The map of the datasets of a list by their identifiers. -/
def byId (datasets : List Dataset) : NameMap Dataset :=
  .ofList (datasets.map fun dataset => (dataset.id, dataset))

end Lookup

end CampusQuery
