import Mathlib.Data.List.Forall2
import Mathlib.Data.List.Induction
import CampusQuery.NameMap

/-!
# Looking names up in a map

A map is known by what it answers for each name. Writing changes the answer for one
name; a list of pairs gives, for every name in it, the value of one of its pairs, and
for other names nothing.
-/

namespace CampusQuery.NameMap

variable {α : Type}

/-- The first entry answers for its name and leaves the other names to the rest. -/
theorem lookup_cons_eq (entry : String × α) (name : String) (rest : List (String × α)) :
    (entry :: rest).lookup name = if name = entry.1 then some entry.2 else rest.lookup name := by
  obtain ⟨first, value⟩ := entry
  by_cases same : name = first
  · simp [same]
  · simp [List.lookup_cons, same, beq_eq_false_iff_ne.mpr same]

/-- A name that is kept has what it had, and the others have nothing. -/
theorem lookup_filter (keeps : String → Bool) (entries : List (String × α)) (name : String) :
    (entries.filter (keeps ·.1)).lookup name =
      if keeps name then entries.lookup name else none := by
  induction entries with
  | nil => simp
  | cons entry rest inductionHypothesis =>
    rw [List.filter_cons, lookup_cons_eq]
    by_cases kept : keeps entry.1 = true
    · rw [if_pos kept, lookup_cons_eq, inductionHypothesis]
      by_cases same : name = entry.1
      · rw [if_pos same, if_pos (same ▸ kept), if_pos same]
      · rw [if_neg same, if_neg same]
    · rw [if_neg kept, inductionHypothesis]
      by_cases same : name = entry.1
      · rw [if_neg (same ▸ kept), if_neg (same ▸ kept)]
      · rw [if_neg same]

/-- After writing, the name has the written value and every other name what it had. -/
theorem lookup_write (name other : String) (value : α) (entries : List (String × α)) :
    (write name value entries).lookup other =
      if other = name then some value else entries.lookup other := by
  induction entries with
  | nil => rw [write, lookup_cons_eq]
  | cons entry rest inductionHypothesis =>
    unfold write
    split
    · rw [lookup_cons_eq]
    · split
      · rename_i replaced
        rw [lookup_cons_eq, lookup_cons_eq, ← replaced]
        by_cases same : other = name <;> simp [same]
      · rename_i different
        rw [lookup_cons_eq, lookup_cons_eq, inductionHypothesis]
        by_cases found : other = entry.1
        · simp [found, Ne.symm different]
        · simp [found]

/-- After an insertion the new value is found, and what was found under other names. -/
theorem get?_insert (map : NameMap α) (name other : String) (value : α) :
    (map.insert name value).get? other = if other = name then some value else map.get? other :=
  lookup_write name other value map.entries

/-- After a removal the name has nothing and every other name what it had. -/
theorem get?_erase (map : NameMap α) (name other : String) :
    (map.erase name).get? other = if other = name then none else map.get? other := by
  rw [erase, get?, lookup_filter (· ≠ name)]
  by_cases same : other = name <;> simp [same, get?]

/-- Nothing is found in the empty map. -/
theorem get?_empty (name : String) : (empty : NameMap α).get? name = none := rfl

/-- The map of a list with one more pair behind. -/
theorem ofList_append_singleton (pairs : List (String × α)) (pair : String × α) :
    ofList (pairs ++ [pair]) = (ofList pairs).insert pair.1 pair.2 := by
  simp [ofList, List.foldl_append]

/-- What the map of a list answers is a pair of the list. -/
theorem mem_of_get?_ofList {pairs : List (String × α)} {name : String} {value : α}
    (found : (ofList pairs).get? name = some value) : (name, value) ∈ pairs := by
  induction pairs using List.reverseRecOn with
  | nil => simp [ofList, get?_empty] at found
  | append_singleton pairs pair inductionHypothesis =>
    rw [ofList_append_singleton, get?_insert] at found
    split at found
    · rename_i same
      obtain rfl := Option.some.inj found
      simp [same]
    · exact List.mem_append_left _ (inductionHypothesis found)

/-- The map of a list answers for exactly the names in it. -/
theorem get?_ofList_isSome_iff {pairs : List (String × α)} {name : String} :
    ((ofList pairs).get? name).isSome = true ↔ name ∈ pairs.map Prod.fst := by
  induction pairs using List.reverseRecOn with
  | nil => simp [ofList, get?_empty]
  | append_singleton pairs pair inductionHypothesis =>
    rw [ofList_append_singleton, get?_insert]
    by_cases same : name = pair.1
    · simp [same]
    · simp [same, inductionHypothesis]

/-- A name that is not in the list has no answer. -/
theorem get?_ofList_eq_none {pairs : List (String × α)} {name : String}
    (absent : name ∉ pairs.map Prod.fst) : (ofList pairs).get? name = none := by
  cases found : (ofList pairs).get? name with
  | none => rfl
  | some value => exact absurd (get?_ofList_isSome_iff.mp (by simp [found])) absent

/-- Where the pairs of one name all have one value, that value is the answer. -/
theorem get?_ofList_of_mem {pairs : List (String × α)} {name : String} {value : α}
    (member : (name, value) ∈ pairs)
    (unique : ∀ other, (name, other) ∈ pairs → other = value) :
    (ofList pairs).get? name = some value := by
  have present : name ∈ pairs.map Prod.fst := List.mem_map.mpr ⟨_, member, rfl⟩
  obtain ⟨found, answer⟩ := Option.isSome_iff_exists.mp (get?_ofList_isSome_iff.mpr present)
  rw [answer, unique found (mem_of_get?_ofList answer)]

/-- The entries of a map are what it answers. -/
theorem mem_entries_iff {map : NameMap α} {name : String} {value : α} :
    (name, value) ∈ map.entries ↔ map.get? name = some value := by
  obtain ⟨entries, ordered⟩ := map
  simp only [get?]
  induction entries with
  | nil => simp
  | cons entry rest inductionHypothesis =>
    obtain ⟨least, restOrdered⟩ := List.pairwise_cons.mp ordered
    rw [List.mem_cons, lookup_cons_eq, inductionHypothesis restOrdered]
    by_cases same : name = entry.1
    · subst same
      have absent : rest.lookup entry.1 ≠ some value := fun found =>
        String.lt_irrefl _ (least (entry.1, value) ((inductionHypothesis restOrdered).mpr found))
      simp [absent, Prod.ext_iff, eq_comm]
    · simp [same, Prod.ext_iff]

/-- The names are listed in increasing order. -/
theorem names_ordered (map : NameMap α) : map.names.Pairwise (· < ·) :=
  List.pairwise_map.mpr map.ordered

/-- No name is listed twice. -/
theorem names_nodup (map : NameMap α) : map.names.Nodup := by
  refine map.names_ordered.imp ?_
  rintro name _ before rfl
  exact String.lt_irrefl name before

/-- Maps that answer alike are equal. -/
theorem eq_of_get? {left right : NameMap α} (same : ∀ name, left.get? name = right.get? name) :
    left = right := by
  have irreflexive (entry : String × α) : ¬ entry.1 < entry.1 := String.lt_irrefl _
  have distinct (map : NameMap α) : map.entries.Nodup :=
    List.Pairwise.of_map Prod.fst (fun _ _ different same => different (congrArg Prod.fst same))
      map.names_nodup
  have permuted : left.entries.Perm right.entries := by
    rw [List.perm_ext_iff_of_nodup (distinct left) (distinct right)]
    rintro ⟨name, value⟩
    rw [mem_entries_iff, mem_entries_iff, same]
  have entries : left.entries = right.entries := by
    refine permuted.eq_of_pairwise ?_ left.ordered right.ordered
    intro first second _ _ before after
    exact absurd (String.lt_trans before after) (irreflexive first)
  obtain ⟨leftEntries, leftOrdered⟩ := left
  obtain ⟨rightEntries, rightOrdered⟩ := right
  subst entries
  rfl

/-- A map contains the names under which something is found. -/
theorem contains_of_found {map : NameMap α} {name : String} {value : α}
    (found : map.get? name = some value) : map.contains name = true := by
  rw [contains, found, Option.isSome_some]

/-- A map contains no name under which nothing is found. -/
theorem not_contains_of_absent {map : NameMap α} {name : String}
    (absent : map.get? name = none) : ¬ map.contains name = true := by
  rw [contains, absent, Option.isSome_none]
  exact Bool.false_ne_true

/-- A name that is not there is removed without a change. -/
theorem erase_of_absent {map : NameMap α} {name : String} (absent : map.get? name = none) :
    map.erase name = map := by
  refine eq_of_get? fun other => ?_
  rw [get?_erase]
  split
  · rename_i same
    rw [same, absent]
  · rfl

/-- The names are those that have a value. -/
theorem mem_names_iff {map : NameMap α} {name : String} :
    name ∈ map.names ↔ (map.get? name).isSome = true := by
  rw [names, List.mem_map, Option.isSome_iff_exists]
  constructor
  · rintro ⟨⟨_, value⟩, member, rfl⟩
    exact ⟨value, mem_entries_iff.mp member⟩
  · rintro ⟨value, found⟩
    exact ⟨(name, value), mem_entries_iff.mpr found, rfl⟩

/-- The values are listed as their names are. -/
theorem forall₂_names_values (map : NameMap α) :
    List.Forall₂ (fun name value => map.get? name = some value) map.names map.values := by
  rw [names, values, List.forall₂_map_left_iff, List.forall₂_map_right_iff, List.forall₂_same]
  rintro ⟨name, value⟩ member
  exact mem_entries_iff.mp member

/-- The map of the entries of a map is the map. -/
theorem ofList_entries (map : NameMap α) : ofList map.entries = map := by
  refine eq_of_get? fun name => ?_
  cases found : map.get? name with
  | some value =>
    refine get?_ofList_of_mem (mem_entries_iff.mpr found) fun other again => ?_
    exact Option.some.inj ((mem_entries_iff.mp again).symm.trans found)
  | none =>
    refine get?_ofList_eq_none fun listed => ?_
    have present := mem_names_iff.mp listed
    rw [found] at present
    cases present

/-- Pairs in increasing order of names are the entries of their map. -/
theorem entries_ofList {pairs : List (String × α)} (ordered : pairs.Pairwise (·.1 < ·.1)) :
    (ofList pairs).entries = pairs :=
  congrArg entries (ofList_entries ⟨pairs, ordered⟩)

end CampusQuery.NameMap
