import CampusQuery.Catalog
import CampusQuery.Proofs.Keys
import CampusQuery.Proofs.NameMaps

/-!
# What a catalog takes in and lists

An identifier can be registered exactly when it can stand in a key. A dataset is refused for
the first of three things: its identifier, the lack of records, and the dataset that is there
already. So a catalog that starts empty has every dataset under the dataset's own identifier,
and listing by the identifiers of the datasets is listing by the identifiers of the catalog.
-/

namespace CampusQuery

/-- A dataset of size zero is one without records. -/
theorem Dataset.size_eq_zero_iff {dataset : Dataset} :
    dataset.size = 0 ↔ dataset.records.toList = [] :=
  List.length_eq_zero_iff

/-- The identifiers that have a dataset, in increasing order. -/
structure Lists (registered : String → Option Dataset) (ids : List String) : Prop where
  increasing : ids.Pairwise (· < ·)
  complete : ∀ id, id ∈ ids ↔ (registered id).isSome = true

/-- The summary is that of the dataset under the identifier, which is the dataset's own. -/
structure Summary.Describes (registered : String → Option Dataset) (id : String)
    (summary : Summary) : Prop where
  named : summary.id = id
  made : ∃ dataset, registered id = some dataset ∧ summary = dataset.summary

namespace Catalog

/-- The check of an identifier decides whether it is one. -/
theorem isValidId_iff {id : String} : isValidId id = true ↔ IsId id := by
  rw [isValidId, Bool.and_eq_true, Bool.not_eq_true', Bool.not_eq_true', allBlank_eq_false_iff,
    List.contains_eq_mem, decide_eq_false_iff_not, IsId]

/-- What is an identifier passes the check. -/
theorem checkId_of_isId {id : String} (valid : IsId id) : checkId id = .ok () := by
  rw [checkId, if_pos (isValidId_iff.mpr valid)]

/-- Any other text is named in the error. -/
theorem checkId_of_not_isId {id : String} (invalid : ¬ IsId id) :
    checkId id = .error (.invalidId id) := by
  rw [checkId, if_neg (mt isValidId_iff.mp invalid)]

/-- An identifier can be registered exactly when it can stand in a key. -/
theorem checkId_eq_ok_iff {id : String} : checkId id = .ok () ↔ IsId id := by
  by_cases valid : IsId id
  · simp [checkId_of_isId valid, valid]
  · simp [checkId_of_not_isId valid, valid]

/-- How registering a dataset ends, by the first rule that applies. -/
inductive Adds (catalog : Catalog) (dataset : Dataset) : Except CatalogError Catalog → Prop where
  | invalid (invalid : ¬ IsId dataset.id) : Adds catalog dataset (.error (.invalidId dataset.id))
  | vacant (valid : IsId dataset.id) (vacant : dataset.records.toList = []) :
    Adds catalog dataset (.error (.noRecords dataset.id))
  | duplicate (valid : IsId dataset.id) (inhabited : dataset.records.toList ≠ [])
      (present : (catalog.datasets.get? dataset.id).isSome = true) :
    Adds catalog dataset (.error (.duplicateId dataset.id))
  | added (valid : IsId dataset.id) (inhabited : dataset.records.toList ≠ [])
      (free : catalog.datasets.get? dataset.id = none) :
    Adds catalog dataset (.ok ⟨catalog.datasets.insert dataset.id dataset⟩)

/-- Adding a dataset comes out by these rules. -/
theorem adds (catalog : Catalog) (dataset : Dataset) :
    catalog.Adds dataset (catalog.add dataset) := by
  unfold add
  by_cases valid : IsId dataset.id
  · rw [checkId_of_isId valid]
    by_cases vacant : dataset.records.toList = []
    · rw [if_pos (Dataset.size_eq_zero_iff.mpr vacant)]
      exact .vacant valid vacant
    · rw [if_neg (mt Dataset.size_eq_zero_iff.mp vacant)]
      cases found : catalog.datasets.get? dataset.id with
      | some present =>
        rw [if_pos (NameMap.contains_of_found found)]
        exact .duplicate valid vacant (by simp [found])
      | none =>
        rw [if_neg (NameMap.not_contains_of_absent found)]
        exact .added valid vacant found
  · rw [checkId_of_not_isId valid]
    exact .invalid valid

/-- How removing an identifier ends, by the first rule that applies. -/
inductive Removes (catalog : Catalog) (id : String) : Except CatalogError Catalog → Prop where
  | invalid (invalid : ¬ IsId id) : Removes catalog id (.error (.invalidId id))
  | missing (valid : IsId id) (free : catalog.datasets.get? id = none) :
    Removes catalog id (.error (.notFound id))
  | removed (valid : IsId id) (present : (catalog.datasets.get? id).isSome = true) :
    Removes catalog id (.ok ⟨catalog.datasets.erase id⟩)

/-- Removing a dataset comes out by these rules. -/
theorem removes (catalog : Catalog) (id : String) : catalog.Removes id (catalog.remove id) := by
  unfold remove
  by_cases valid : IsId id
  · rw [checkId_of_isId valid]
    cases found : catalog.datasets.get? id with
    | some present =>
      rw [if_pos (NameMap.contains_of_found found)]
      exact .removed valid (by simp [found])
    | none =>
      rw [if_neg (NameMap.not_contains_of_absent found)]
      exact .missing valid found
  · rw [checkId_of_not_isId valid]
    exact .invalid valid

/-- A dataset that may stand under an identifier. -/
structure Admits (id : String) (dataset : Dataset) : Prop where
  named : dataset.id = id
  valid : IsId id
  inhabited : dataset.records.toList ≠ []

/-- Every dataset of the catalog may stand where it stands. -/
def Sound (catalog : Catalog) : Prop :=
  ∀ id dataset, catalog.datasets.get? id = some dataset → Admits id dataset

/-- The empty catalog is sound. -/
theorem sound_empty : Sound .empty := nofun

/-- A catalog stays sound with a dataset that has an identifier and records. -/
theorem Sound.insert {catalog : Catalog} (sound : catalog.Sound) {dataset : Dataset}
    (valid : IsId dataset.id) (inhabited : dataset.records.toList ≠ []) :
    Sound ⟨catalog.datasets.insert dataset.id dataset⟩ := by
  intro id found registered
  rw [NameMap.get?_insert] at registered
  split at registered
  · rename_i same
    obtain rfl := Option.some.inj registered
    exact ⟨same.symm, same ▸ valid, inhabited⟩
  · exact sound id found registered

/-- A catalog stays sound without a dataset that it had. -/
theorem Sound.erase {catalog : Catalog} (sound : catalog.Sound) (id : String) :
    Sound ⟨catalog.datasets.erase id⟩ := by
  intro other found registered
  rw [NameMap.get?_erase] at registered
  split at registered
  · cases registered
  · exact sound other found registered

/-- The identifiers of a catalog list what it finds. -/
theorem lists (catalog : Catalog) : Lists catalog.datasets.get? catalog.ids :=
  ⟨catalog.datasets.names_ordered, fun _ => NameMap.mem_names_iff⟩

/-- With a dataset added, they list that one as well. -/
theorem lists_insert (catalog : Catalog) (dataset : Dataset) :
    Lists (fun id => if id = dataset.id then some dataset else catalog.datasets.get? id)
      (Catalog.mk (catalog.datasets.insert dataset.id dataset)).ids := by
  have written : (fun id => if id = dataset.id then some dataset else catalog.datasets.get? id) =
      (catalog.datasets.insert dataset.id dataset).get? :=
    funext fun id => (NameMap.get?_insert catalog.datasets dataset.id id dataset).symm
  rw [written]
  exact lists ⟨catalog.datasets.insert dataset.id dataset⟩

/-- In a sound catalog the two listings go together: sorted by the datasets' own identifiers,
the summaries stand in the order of the identifiers of the catalog. -/
theorem Sound.describes_list {catalog : Catalog} (sound : catalog.Sound) :
    List.Forall₂ (Summary.Describes catalog.datasets.get?) catalog.ids catalog.list := by
  have described : List.Forall₂ (Summary.Describes catalog.datasets.get?) catalog.ids
      (catalog.datasets.values.map Dataset.summary) := by
    rw [List.forall₂_map_right_iff]
    refine catalog.datasets.forall₂_names_values.imp ?_
    intro id dataset registered
    exact ⟨(sound id dataset registered).named, dataset, registered, rfl⟩
  have named : (catalog.datasets.values.map Dataset.summary).map Summary.id = catalog.ids := by
    rw [← List.forall₂_eq_eq_eq, List.forall₂_map_left_iff]
    exact (described.imp fun _ _ description => description.named).flip
  -- So the values come sorted by what they are sorted by, and sorting moves nothing.
  have increasing : (catalog.datasets.values.map Dataset.summary).Pairwise
      fun one other => one.id < other.id := by
    rw [← List.pairwise_map, named]
    exact catalog.datasets.names_ordered
  have sorted : (catalog.datasets.values.map Dataset.summary).Pairwise
      fun one other => decide (one.id ≤ other.id) = true := by
    refine increasing.imp ?_
    intro one other before
    exact decide_eq_true (String.not_lt.mp (String.lt_asymm before))
  rw [list, List.mergeSort_of_pairwise sorted]
  exact described

end Catalog

end CampusQuery
