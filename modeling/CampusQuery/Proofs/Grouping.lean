import Mathlib.Data.List.Induction
import Mathlib.Data.List.Perm.Subperm
import CampusQuery.Transformation
import CampusQuery.Proofs.Checks
import CampusQuery.Proofs.Records

/-!
# Groups gather equal values

Records are placed one after the other, each at the end of the group of its values or
in a new group. What the loop keeps is that the groups stand for the distinct values
among the records seen so far, in the order of their first occurrence, and that each
group holds all of those records with its values, in their order, and no others.
-/

namespace CampusQuery

namespace Group

variable {valuesOf : Record → List Value}

/-- The groups are the records, gathered by their values. -/
structure Gathers (valuesOf : Record → List Value) (records : List Record)
    (groups : List Group) : Prop where
  order : groups.map Group.values = (records.map valuesOf).eraseDups
  members : ∀ group ∈ groups,
    group.records = records.filter fun record => valuesOf record = group.values

/-- A last item is kept unless it has occurred before. -/
theorem eraseDups_append_singleton {α : Type} [BEq α] [LawfulBEq α] [DecidableEq α] (item : α)
    (items : List α) :
    (items ++ [item]).eraseDups =
      if item ∈ items then items.eraseDups else items.eraseDups ++ [item] := by
  rw [List.eraseDups_append]
  by_cases present : item ∈ items <;> simp [present, List.removeAll, List.eraseDups_cons]

/-- No item is left twice. -/
theorem nodup_eraseDups {α : Type} [BEq α] [LawfulBEq α] [DecidableEq α] (items : List α) :
    items.eraseDups.Nodup := by
  induction items using List.reverseRecOn with
  | nil => exact .nil
  | append_singleton items item inductionHypothesis =>
    rw [eraseDups_append_singleton]
    split
    · exact inductionHypothesis
    · rename_i new
      refine List.nodup_append.mpr ⟨inductionHypothesis, List.pairwise_singleton _ _, ?_⟩
      rintro other present _ only rfl
      exact new (List.mem_eraseDups.mp (List.mem_singleton.mp only ▸ present))

/-- No two groups have the same values. -/
theorem Gathers.distinct {records : List Record} {groups : List Group}
    (gathered : Gathers valuesOf records groups) : (groups.map Group.values).Nodup :=
  gathered.order ▸ nodup_eraseDups _

/-- Items that a function tells apart are distinct as before under it. -/
theorem eraseDups_map {α β : Type} [BEq α] [LawfulBEq α] [DecidableEq α] [BEq β] [LawfulBEq β]
    [DecidableEq β] {image : α → β} (injective : Function.Injective image) (items : List α) :
    (items.map image).eraseDups = items.eraseDups.map image := by
  induction items using List.reverseRecOn with
  | nil => rfl
  | append_singleton items item inductionHypothesis =>
    rw [List.map_append, List.map_singleton, eraseDups_append_singleton,
      eraseDups_append_singleton, inductionHypothesis]
    by_cases present : item ∈ items
    · rw [if_pos present, if_pos (List.mem_map_of_mem present)]
    · have absent : image item ∉ items.map image := fun occurs =>
        present ((List.mem_map_of_injective injective).mp occurs)
      rw [if_neg present, if_neg absent, List.map_append, List.map_singleton]

/-- Items that fail a test can be dropped before repetitions are or after them. -/
theorem eraseDups_filter {α : Type} [BEq α] [LawfulBEq α] [DecidableEq α] (keep : α → Bool)
    (items : List α) : (items.filter keep).eraseDups = items.eraseDups.filter keep := by
  induction items using List.reverseRecOn with
  | nil => rfl
  | append_singleton items item inductionHypothesis =>
    rw [List.filter_append, eraseDups_append_singleton]
    by_cases kept : keep item = true
    · have present : item ∈ items.filter keep ↔ item ∈ items := by
        rw [List.mem_filter, and_iff_left kept]
      rw [List.filter_cons_of_pos kept, List.filter_nil, eraseDups_append_singleton,
        inductionHypothesis]
      by_cases again : item ∈ items
      · rw [if_pos (present.mpr again), if_pos again]
      · rw [if_neg (mt present.mp again), if_neg again, List.filter_append,
          List.filter_cons_of_pos kept, List.filter_nil]
    · rw [List.filter_cons_of_neg kept, List.filter_nil, List.append_nil, inductionHypothesis]
      split
      · rfl
      · rw [List.filter_append, List.filter_cons_of_neg kept, List.filter_nil, List.append_nil]

/-- Items without repetitions stay as they are. -/
theorem eraseDups_of_nodup {α : Type} [BEq α] [LawfulBEq α] [DecidableEq α] {items : List α}
    (distinct : items.Nodup) : items.eraseDups = items := by
  induction items using List.reverseRecOn with
  | nil => rfl
  | append_singleton items item inductionHypothesis =>
    obtain ⟨earlier, -, apart⟩ := List.nodup_append.mp distinct
    have new : item ∉ items := fun present => apart item present item (by simp) rfl
    rw [eraseDups_append_singleton, if_neg new, inductionHypothesis earlier]

/-- There are not more distinct items than items. -/
theorem length_eraseDups_le {α : Type} [BEq α] [LawfulBEq α] [DecidableEq α] (items : List α) :
    items.eraseDups.length ≤ items.length :=
  ((nodup_eraseDups items).subperm fun _ => List.mem_eraseDups.mp).length_le

/-- Where there is an item, there is a distinct one. -/
theorem length_eraseDups_pos {α : Type} [BEq α] [LawfulBEq α] [DecidableEq α] {items : List α}
    (nonempty : items ≠ []) : 0 < items.eraseDups.length := by
  obtain ⟨item, present⟩ := List.exists_mem_of_ne_nil items nonempty
  exact List.length_pos_of_mem (List.mem_eraseDups.mpr present)

/-- Items that are all the same are one. -/
theorem length_eraseDups_of_same {α : Type} [BEq α] [LawfulBEq α] [DecidableEq α] {items : List α}
    (nonempty : items ≠ []) {item : α} (same : ∀ other ∈ items, other = item) :
    items.eraseDups.length = 1 := by
  have within : items.eraseDups ⊆ [item] := fun other present =>
    List.mem_singleton.mpr (same other (List.mem_eraseDups.mp present))
  have atMost := ((nodup_eraseDups items).subperm within).length_le
  have atLeast := length_eraseDups_pos nonempty
  exact Nat.le_antisymm atMost atLeast

/-- Placing a record adds its values behind the others if they are new. -/
theorem map_values_place (values : List Value) (record : Record) (groups : List Group) :
    (place values record groups).map Group.values =
      if values ∈ groups.map Group.values then groups.map Group.values
      else groups.map Group.values ++ [values] := by
  induction groups with
  | nil => rfl
  | cons group rest inductionHypothesis =>
    unfold place
    split
    · rename_i same
      simp [same]
    · rename_i different
      rw [List.map_cons, inductionHypothesis, List.map_cons]
      by_cases present : values ∈ rest.map Group.values
      · rw [if_pos present, if_pos (List.mem_cons_of_mem _ present)]
      · rw [if_neg present, if_neg (by simpa [Ne.symm different] using present), List.cons_append]

/-- Groups of other values are left as they are. The group of the values has one more
record, behind those it had, or it is new and has that record alone. -/
theorem mem_place {values : List Value} {record : Record} {groups : List Group} {group : Group}
    (distinct : (groups.map Group.values).Nodup) (member : group ∈ place values record groups) :
    group ∈ groups ∧ group.values ≠ values ∨ group.values = values ∧
      ((∃ before ∈ groups, before.values = values ∧ group.records = before.records ++ [record]) ∨
        values ∉ groups.map Group.values ∧ group.records = [record]) := by
  induction groups with
  | nil =>
    obtain rfl := List.mem_singleton.mp member
    exact .inr ⟨rfl, .inr ⟨List.not_mem_nil, rfl⟩⟩
  | cons head rest inductionHypothesis =>
    obtain ⟨headNew, restDistinct⟩ := List.nodup_cons.mp distinct
    unfold place at member
    split at member
    · rename_i same
      rcases List.mem_cons.mp member with rfl | later
      · exact .inr ⟨same, .inl ⟨head, List.mem_cons_self, same, rfl⟩⟩
      · refine .inl ⟨List.mem_cons_of_mem _ later, fun again => headNew ?_⟩
        exact List.mem_map.mpr ⟨group, later, again.trans same.symm⟩
    · rename_i different
      rcases List.mem_cons.mp member with rfl | later
      · exact .inl ⟨List.mem_cons_self, different⟩
      · rcases inductionHypothesis restDistinct later with ⟨kept, other⟩ | ⟨same, placed⟩
        · exact .inl ⟨List.mem_cons_of_mem _ kept, other⟩
        · refine .inr ⟨same, placed.imp ?_ ?_⟩
          · rintro ⟨before, inRest, held, extended⟩
            exact ⟨before, List.mem_cons_of_mem _ inRest, held, extended⟩
          · rintro ⟨new, alone⟩
            exact ⟨by simpa [Ne.symm different] using new, alone⟩

/-- No records make no groups. -/
theorem gathers_nil (valuesOf : Record → List Value) : Gathers valuesOf [] [] :=
  ⟨rfl, by simp⟩

/-- Placing one more record keeps the records gathered. -/
theorem Gathers.place {records : List Record} {groups : List Group}
    (gathered : Gathers valuesOf records groups) (record : Record) :
    Gathers valuesOf (records ++ [record]) (place (valuesOf record) record groups) := by
  have seen : valuesOf record ∈ groups.map Group.values ↔
      valuesOf record ∈ records.map valuesOf := by
    rw [gathered.order, List.mem_eraseDups]
  constructor
  · rw [map_values_place, List.map_append, List.map_singleton, eraseDups_append_singleton,
      gathered.order]
    simp only [List.mem_eraseDups]
  · intro group member
    rw [List.filter_append]
    rcases mem_place gathered.distinct member with ⟨kept, other⟩ | ⟨same, placed⟩
    · rw [gathered.members group kept]
      simp [Ne.symm other]
    · rcases placed with ⟨before, inGroups, held, extended⟩ | ⟨new, alone⟩
      · rw [extended, gathered.members before inGroups, held, same]
        simp
      · have none : records.filter (fun record => valuesOf record = group.values) = [] := by
          rw [List.filter_eq_nil_iff]
          intro other inRecords equal
          refine new (seen.mpr (List.mem_map.mpr ⟨other, inRecords, ?_⟩))
          exact (of_decide_eq_true equal).trans same
        rw [alone, none, same]
        simp

/-- Where the values of every record can be read, the loop gathers all records. -/
theorem ofRecords_gathers {keys : List Key} {records : List Record}
    (read : ∀ record ∈ records, Transformation.groupOf keys record = .ok (valuesOf record)) :
    ∃ groups, ofRecords keys records = .ok groups ∧ Gathers valuesOf records groups := by
  induction records using List.reverseRecOn with
  | nil => exact ⟨[], rfl, gathers_nil valuesOf⟩
  | append_singleton records record inductionHypothesis =>
    obtain ⟨groups, done, gathered⟩ := inductionHypothesis fun other member =>
      read other (List.mem_append_left _ member)
    have last := read record (List.mem_append_right _ (List.mem_singleton.mpr rfl))
    refine ⟨_, ?_, gathered.place record⟩
    rw [ofRecords, List.foldlM_append]
    rw [ofRecords] at done
    rw [done, Checks.ok_bind, List.foldlM_cons, last]
    rfl

/-- Every record is in a group, and in the group of its values alone. -/
theorem Gathers.mem_records_iff {records : List Record} {groups : List Group}
    (gathered : Gathers valuesOf records groups) {group : Group} (member : group ∈ groups)
    {record : Record} :
    record ∈ group.records ↔ record ∈ records ∧ valuesOf record = group.values := by
  rw [gathered.members group member, List.mem_filter, decide_eq_true_iff]

end Group

end CampusQuery
