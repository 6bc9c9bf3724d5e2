import CampusQuery.Lookup
import CampusQuery.Text.Blank
import CampusQuery.Text.Quoted

/-!
# The catalog

The catalog holds the registered datasets, each under its own identifier. An
identifier can be registered if it can stand in a key: it is not blank and has no
underscore. A dataset without records is not registered. A step that fails leaves
the catalog as it is. A snapshot keeps the datasets of its moment.
-/

namespace CampusQuery

/-- Why a step on the catalog fails. -/
inductive CatalogError where
  | invalidId (id : String)
  | duplicateId (id : String)
  | notFound (id : String)
  | noRecords (id : String)
deriving DecidableEq

/-- The wording of an error. -/
def CatalogError.message : CatalogError → String
  | invalidId id => "invalid dataset id: " ++ Text.quoted id
  | duplicateId id => "dataset already exists: " ++ id
  | notFound id => "dataset not found: " ++ id
  | noRecords id => "dataset " ++ id ++ " has no valid records"

/-- The registered datasets. -/
structure Catalog where
  datasets : NameMap Dataset

/-- The datasets of a catalog at one moment. -/
structure Snapshot where
  datasets : NameMap Dataset

namespace Catalog

/-- The catalog without datasets. -/
def empty : Catalog := ⟨.empty⟩

/-- Whether an identifier can be registered. -/
def isValidId (id : String) : Bool := !Text.allBlank id && !id.toList.contains Key.separator

/-- Requires that an identifier can be registered. -/
def checkId (id : String) : Except CatalogError Unit :=
  if isValidId id then .ok () else .error (.invalidId id)

/-- Registers a dataset. -/
def add (catalog : Catalog) (dataset : Dataset) : Except CatalogError Catalog := do
  checkId dataset.id
  if dataset.size = 0 then throw (.noRecords dataset.id)
  if catalog.datasets.contains dataset.id then throw (.duplicateId dataset.id)
  return ⟨catalog.datasets.insert dataset.id dataset⟩

/-- Removes the dataset of an identifier. -/
def remove (catalog : Catalog) (id : String) : Except CatalogError Catalog := do
  checkId id
  if catalog.datasets.contains id then return ⟨catalog.datasets.erase id⟩
  throw (.notFound id)

/-- Whether there is a dataset of an identifier. -/
def contains (catalog : Catalog) (id : String) : Bool := catalog.datasets.contains id

/-- The registered identifiers, in increasing order. -/
def ids (catalog : Catalog) : List String := catalog.datasets.names

/-- What is registered, sorted by the identifiers of the datasets themselves. -/
def list (catalog : Catalog) : List Summary :=
  (catalog.datasets.values.map Dataset.summary).mergeSort fun one other => one.id ≤ other.id

/-- The datasets as they are now. -/
def snapshot (catalog : Catalog) : Snapshot := ⟨catalog.datasets⟩

/-- Registers datasets one after the other. -/
def ofList (datasets : List Dataset) : Except CatalogError Catalog := datasets.foldlM add empty

end Catalog

namespace Snapshot

/-- The number of datasets. -/
def size (snapshot : Snapshot) : Nat := snapshot.datasets.size

/-- The lookup in a snapshot. -/
def lookup (snapshot : Snapshot) : Lookup := .ofMap snapshot.datasets

end Snapshot

end CampusQuery
