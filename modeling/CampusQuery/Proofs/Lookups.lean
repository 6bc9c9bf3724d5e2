import CampusQuery.Answer
import CampusQuery.Proofs.Catalogs
import CampusQuery.Proofs.Surface

/-!
# All lookups give the same answers

Datasets with distinct identifiers can be kept in a list, in a map by identifier, or in a
catalog, and in any order. What a lookup in either of them finds is the same: the dataset of
the identifier, if there is one. An answer depends on the lookup through what it finds, so it
does not depend on where the datasets are kept.
-/

namespace CampusQuery

namespace Lookup

/-- The lookup finds exactly the datasets, each under its own identifier. -/
def Finds (lookup : Lookup) (datasets : List Dataset) : Prop :=
  ∀ id dataset, lookup id = some dataset ↔ dataset ∈ datasets ∧ dataset.id = id

/-- Lookups that find the same datasets, in whatever order these come, are equal. -/
theorem Finds.eq {left right : Lookup} {datasets others : List Dataset}
    (leftFinds : left.Finds datasets) (rightFinds : right.Finds others)
    (permuted : datasets.Perm others) : left = right := by
  funext id
  apply Option.ext
  intro dataset
  rw [leftFinds, rightFinds, permuted.mem_iff]

/-- Nothing is found under an identifier that none of the datasets has. -/
theorem Finds.free {lookup : Lookup} {datasets : List Dataset} (finds : lookup.Finds datasets)
    {id : String} (absent : id ∉ datasets.map Dataset.id) : lookup id = none := by
  refine Option.eq_none_iff_forall_ne_some.mpr ?_
  intro dataset found
  obtain ⟨member, named⟩ := (finds id dataset).mp found
  exact absent (List.mem_map.mpr ⟨dataset, member, named⟩)

/-- Writing a dataset with a new identifier into a map adds the dataset to those found. -/
theorem Finds.insert {map : NameMap Dataset} {datasets : List Dataset}
    (finds : (ofMap map).Finds datasets) {dataset : Dataset}
    (absent : dataset.id ∉ datasets.map Dataset.id) :
    (ofMap (map.insert dataset.id dataset)).Finds (datasets ++ [dataset]) := by
  intro id found
  rw [ofMap, NameMap.get?_insert, List.mem_append, List.mem_singleton]
  by_cases same : id = dataset.id
  · rw [if_pos same]
    constructor
    · intro written
      obtain rfl := Option.some.inj written
      exact ⟨.inr rfl, same.symm⟩
    · rintro ⟨earlier | rfl, named⟩
      · exact absurd (List.mem_map.mpr ⟨found, earlier, named.trans same⟩) absent
      · rfl
  · rw [if_neg same, show map.get? id = some found ↔ _ from finds id found]
    constructor
    · rintro ⟨earlier, named⟩
      exact ⟨.inl earlier, named⟩
    · rintro ⟨earlier | rfl, named⟩
      · exact ⟨earlier, named⟩
      · exact absurd named.symm same

/-- A list with distinct identifiers is looked up without regard to its order. -/
theorem ofList_finds {datasets : List Dataset} (distinct : (datasets.map Dataset.id).Nodup) :
    (ofList datasets).Finds datasets := by
  intro id dataset
  constructor
  · intro found
    exact ⟨List.mem_of_find?_eq_some found, by simpa using List.find?_some found⟩
  · rintro ⟨member, rfl⟩
    exact Checks.find?_of_mem distinct member

/-- The last of distinct identifiers is none of the others. -/
theorem distinct_append_singleton {datasets : List Dataset} {dataset : Dataset}
    (distinct : ((datasets ++ [dataset]).map Dataset.id).Nodup) :
    (datasets.map Dataset.id).Nodup ∧ dataset.id ∉ datasets.map Dataset.id := by
  rw [List.map_append, List.nodup_append] at distinct
  obtain ⟨earlier, -, apart⟩ := distinct
  exact ⟨earlier, fun member => apart _ member dataset.id (by simp) rfl⟩

/-- One more dataset is written into the map of the others. -/
theorem byId_append_singleton (datasets : List Dataset) (dataset : Dataset) :
    byId (datasets ++ [dataset]) = (byId datasets).insert dataset.id dataset := by
  rw [byId, List.map_append, List.map_singleton, NameMap.ofList_append_singleton]
  rfl

/-- In the map of a list with distinct identifiers nothing is written over. -/
theorem byId_finds {datasets : List Dataset} (distinct : (datasets.map Dataset.id).Nodup) :
    (ofMap (byId datasets)).Finds datasets := by
  induction datasets using List.reverseRecOn with
  | nil => exact fun id dataset => iff_of_false nofun (by simp)
  | append_singleton datasets dataset inductionHypothesis =>
    obtain ⟨earlier, absent⟩ := distinct_append_singleton distinct
    rw [byId_append_singleton]
    exact (inductionHypothesis earlier).insert absent

end Lookup

/-- Registering one more dataset after the others. -/
theorem Catalog.ofList_append_singleton (datasets : List Dataset) (dataset : Dataset) :
    ofList (datasets ++ [dataset]) = ofList datasets >>= fun catalog => catalog.add dataset := by
  simp only [ofList, List.foldlM_append, List.foldlM_cons, List.foldlM_nil, bind_pure]

/-- Datasets that may be registered and have distinct identifiers are registered all, one
after the other, and nothing else is. -/
theorem Catalog.ofList_finds {datasets : List Dataset}
    (distinct : (datasets.map Dataset.id).Nodup)
    (valid : ∀ dataset ∈ datasets, IsId dataset.id)
    (inhabited : ∀ dataset ∈ datasets, dataset.records.toList ≠ []) :
    ∃ catalog, ofList datasets = .ok catalog ∧ catalog.snapshot.lookup.Finds datasets := by
  induction datasets using List.reverseRecOn with
  | nil => exact ⟨.empty, rfl, fun id dataset => iff_of_false nofun (by simp)⟩
  | append_singleton datasets dataset inductionHypothesis =>
    obtain ⟨earlier, absent⟩ := Lookup.distinct_append_singleton distinct
    obtain ⟨catalog, registered, finds⟩ := inductionHypothesis earlier
      (fun one member => valid one (List.mem_append_left _ member))
      (fun one member => inhabited one (List.mem_append_left _ member))
    have rule := catalog.adds dataset
    rw [ofList_append_singleton, registered, Checks.ok_bind]
    generalize catalog.add dataset = outcome at rule
    cases rule with
    | invalid invalid => exact absurd (valid dataset (by simp)) invalid
    | vacant _ vacant => exact absurd vacant (inhabited dataset (by simp))
    | duplicate _ _ present =>
      have free : catalog.datasets.get? dataset.id = none := finds.free absent
      simp [free] at present
    | added => exact ⟨_, rfl, finds.insert absent⟩

/-- Datasets with distinct identifiers, each of which may be registered, give the same answers
from a list, from a map by identifier, and from a snapshot of a catalog, whatever the orders
in which they stand and were put there. They can all be registered. -/
theorem answer_lookups {datasets listed mapped registered : List Dataset}
    (distinct : (datasets.map Dataset.id).Nodup)
    (valid : ∀ dataset ∈ datasets, IsId dataset.id)
    (inhabited : ∀ dataset ∈ datasets, dataset.records.toList ≠ [])
    (listing : listed.Perm datasets) (mapping : mapped.Perm datasets)
    (registration : registered.Perm datasets) :
    ∃ catalog, Catalog.ofList registered = .ok catalog ∧ ∀ limit raw,
      answer (.ofList listed) limit raw = answer (.ofList datasets) limit raw ∧
      answer (.ofMap (Lookup.byId mapped)) limit raw = answer (.ofList datasets) limit raw ∧
      answer catalog.snapshot.lookup limit raw = answer (.ofList datasets) limit raw := by
  have distinctAlso : ∀ others : List Dataset, others.Perm datasets →
      (others.map Dataset.id).Nodup :=
    fun others permuted => (permuted.map Dataset.id).nodup_iff.mpr distinct
  have finds := Lookup.ofList_finds distinct
  have sameList := (Lookup.ofList_finds (distinctAlso listed listing)).eq finds listing
  have sameMap := (Lookup.byId_finds (distinctAlso mapped mapping)).eq finds mapping
  obtain ⟨catalog, added, catalogFinds⟩ := Catalog.ofList_finds
    (distinctAlso registered registration)
    (fun dataset member => valid dataset (registration.mem_iff.mp member))
    (fun dataset member => inhabited dataset (registration.mem_iff.mp member))
  have sameCatalog := catalogFinds.eq finds registration
  refine ⟨catalog, added, fun limit raw => ⟨?_, ?_, ?_⟩⟩
  · rw [sameList]
  · rw [sameMap]
  · rw [sameCatalog]

/-- With a second dataset, put into the map and into the catalog first and listed last: the
averages of the departments are counted alike from all three. -/
theorem counted_lookups :
    let autumn : Dataset := ⟨"autumn", .sections [Sample.course "hist" 85]⟩
    ∃ catalog rows, Catalog.ofList [autumn, Sample.dataset] = .ok catalog ∧
      answer (.ofList [Sample.dataset, autumn]) 3 (Sample.counted []) = .ok rows ∧ rows.length = 3 ∧
      answer (.ofMap (Lookup.byId [autumn, Sample.dataset])) 3 (Sample.counted []) = .ok rows ∧
      answer catalog.snapshot.lookup 3 (Sample.counted []) = .ok rows := by
  intro autumn
  have valid : ∀ dataset ∈ [Sample.dataset, autumn], IsId dataset.id := by
    intro dataset member
    apply Catalog.isValidId_iff.mp
    revert dataset
    decide +kernel
  have swapped := List.Perm.swap Sample.dataset autumn []
  obtain ⟨catalog, registered, same⟩ := answer_lookups (by decide +kernel) valid
    (by decide +kernel) (.refl _) swapped swapped
  obtain ⟨rows, answered, length⟩ : ∃ rows,
      answer (.ofList [Sample.dataset, autumn]) 3 (Sample.counted []) = .ok rows ∧
        rows.length = 3 :=
    Checks.exists_ok_of_seen (by decide +kernel)
  obtain ⟨-, fromMap, fromCatalog⟩ := same 3 (Sample.counted [])
  exact ⟨catalog, rows, registered, answered, length, fromMap.trans answered,
    fromCatalog.trans answered⟩

end CampusQuery
