import Mathlib.Data.List.Forall2
import CampusQuery.StableSort

/-!
# What a stable sort promises

A sort that comes to an end has taken every item once. It fails to end only on a list that is
too long to be sorted by insertion and whose comparison contradicts itself. Nothing but the
comparison decides where an item goes, so two lists whose items compare alike are sorted
alike, and both sorts end or neither does.
-/

namespace CampusQuery

namespace StableSort

variable {α β : Type} {known : Bool} {le : α → α → Bool} {otherLe : β → β → Bool}

/-- What may stand before a second item may stand before all items that this one may stand
before. -/
theorem agreesOn_iff {items : List α} :
    agreesOn le items = true ↔ ∀ first ∈ items, ∀ second ∈ items, ∀ third ∈ items,
      le first second = true → le second third = true → le first third = true := by
  simp only [agreesOn, List.all_eq_true, Bool.or_eq_true, Bool.not_eq_true']
  constructor
  · intro agrees first inFirst second inSecond third inThird before behind
    rcases agrees first inFirst second inSecond with apart | follows
    · rw [before] at apart
      cases apart
    · rcases follows third inThird with apart | stands
      · rw [behind] at apart
        cases apart
      · exact stands
  · intro agrees first inFirst second inSecond
    cases before : le first second with
    | false => exact .inl rfl
    | true =>
      refine .inr fun third inThird => ?_
      cases behind : le second third with
      | false => exact .inl rfl
      | true => exact .inr (agrees first inFirst second inSecond third inThird before behind)

/-- A comparison that does not agree with itself contradicts itself on three of the items. -/
theorem not_agreesOn_iff {items : List α} :
    ¬agreesOn le items = true ↔ ∃ first ∈ items, ∃ second ∈ items, ∃ third ∈ items,
      le first second = true ∧ le second third = true ∧ le first third = false := by
  rw [agreesOn_iff]
  push Not
  simp only [ne_eq, Bool.not_eq_true]

/-- Placing an item adds it to the placed ones. -/
theorem place_perm (le : α → α → Bool) (item : α) (placed : List α) :
    (place le item placed).Perm (item :: placed) := by
  induction placed with
  | nil => exact .refl _
  | cons last before inductionHypothesis =>
    rw [place]
    split
    · exact .refl _
    · exact (inductionHypothesis.cons last).trans (.swap item last before)

/-- Sorting by insertion takes every item once. -/
theorem byInsertion_perm (le : α → α → Bool) (items : List α) :
    (byInsertion le items).Perm items := by
  have placed (items placed : List α) :
      (items.foldl (fun placed item => place le item placed) placed).Perm (placed ++ items) := by
    induction items generalizing placed with
    | nil => rw [List.foldl_nil, List.append_nil]
    | cons item rest inductionHypothesis =>
      rw [List.foldl_cons]
      refine (inductionHypothesis (place le item placed)).trans ?_
      exact ((place_perm le item placed).append_right rest).trans List.perm_middle.symm
  exact (List.reverse_perm _).trans (placed items [])

/-- A sort that ends has taken every item once. -/
theorem perm_of_sort? {items sorted : List α} (ends : sort? known le items = some sorted) :
    sorted.Perm items := by
  unfold sort? at ends
  split at ends
  · obtain rfl := Option.some.inj ends
    exact List.mergeSort_perm items le
  · split at ends
    · obtain rfl := Option.some.inj ends
      exact byInsertion_perm le items
    · cases ends

/-- Where the comparison agrees with itself, the items come out in their one stable
arrangement. -/
theorem sort?_of_agreesOn {items : List α} (agrees : agreesOn le items = true) :
    sort? known le items = some (items.mergeSort le) := by
  rw [sort?, if_pos (by rw [agrees, Bool.or_true])]

/-- That a comparison agrees with itself may be known or found out. -/
theorem sort?_known {items : List α} (sound : known = true → agreesOn le items = true) :
    sort? known le items = sort? false le items := by
  cases known with
  | false => rfl
  | true => rw [sort?_of_agreesOn (sound rfl), sort?_of_agreesOn (sound rfl)]

/-- The sort does not end exactly where more items than are sorted by insertion are compared
with a contradiction. -/
theorem sort?_eq_none_iff {items : List α} :
    sort? false le items = none ↔ insertionLimit < items.length ∧
      ∃ first ∈ items, ∃ second ∈ items, ∃ third ∈ items,
        le first second = true ∧ le second third = true ∧ le first third = false := by
  rw [← not_agreesOn_iff, sort?, Bool.false_or]
  by_cases agrees : agreesOn le items = true
  · simp [agrees]
  · by_cases few : items.length ≤ insertionLimit
    · simp [agrees, few]
    · simp [agrees, few, Nat.lt_of_not_le few]

/-- Items that compare as their images do agree with one another as these do. -/
theorem agreesOn_map {items : List α} {image : α → β}
    (alike : ∀ left ∈ items, ∀ right ∈ items, le left right = otherLe (image left) (image right)) :
    agreesOn otherLe (items.map image) = agreesOn le items := by
  rw [← Bool.coe_iff_coe, agreesOn_iff, agreesOn_iff]
  simp only [List.forall_mem_map]
  refine forall₂_congr fun first inFirst => forall₂_congr fun second inSecond =>
    forall₂_congr fun third inThird => ?_
  rw [alike first inFirst second inSecond, alike second inSecond third inThird,
    alike first inFirst third inThird]

/-- The image of an item is placed among the images where the item is. -/
theorem map_place {item : α} {placed : List α} {image : α → β}
    (alike : ∀ other ∈ placed, le other item = otherLe (image other) (image item)) :
    (place le item placed).map image = place otherLe (image item) (placed.map image) := by
  induction placed with
  | nil => rfl
  | cons last before inductionHypothesis =>
    obtain ⟨first, others⟩ := List.forall_mem_cons.mp alike
    rw [List.map_cons, place, place, ← first]
    split
    · rfl
    · rw [List.map_cons, inductionHypothesis others]

/-- Items that compare as their images do are inserted as these are. -/
theorem map_byInsertion {items : List α} {image : α → β}
    (alike : ∀ left ∈ items, ∀ right ∈ items, le left right = otherLe (image left) (image right)) :
    (byInsertion le items).map image = byInsertion otherLe (items.map image) := by
  -- What is placed already are items of the list, so the comparison with the next one agrees.
  have placed (rest placed : List α) (fromRest : rest ⊆ items) (fromPlaced : placed ⊆ items) :
      (rest.foldl (fun placed item => place le item placed) placed).map image =
        (rest.map image).foldl (fun placed item => place otherLe item placed)
          (placed.map image) := by
    induction rest generalizing placed with
    | nil => rfl
    | cons item rest inductionHypothesis =>
      obtain ⟨inItems, others⟩ := List.cons_subset.mp fromRest
      have extended : place le item placed ⊆ items :=
        List.Subset.trans (place_perm le item placed).subset
          (List.cons_subset.mpr ⟨inItems, fromPlaced⟩)
      rw [List.map_cons, List.foldl_cons, List.foldl_cons,
        inductionHypothesis (place le item placed) others extended,
        map_place fun other member => alike other (fromPlaced member) item inItems]
  rw [byInsertion, byInsertion, List.map_reverse,
    placed items [] (List.Subset.refl items) (List.nil_subset items), List.map_nil]

/-- Items that compare as their images do are sorted as these are. -/
theorem map_sort? {items : List α} {image : α → β}
    (alike : ∀ left ∈ items, ∀ right ∈ items, le left right = otherLe (image left) (image right)) :
    (sort? known le items).map (List.map image) = sort? known otherLe (items.map image) := by
  rw [sort?, sort?, agreesOn_map alike, List.length_map]
  split
  · rw [Option.map_some, List.map_mergeSort alike]
  · split
    · rw [Option.map_some, map_byInsertion alike]
    · rfl

/-- Lists of related items whose comparisons agree are both sorted, and stay related, or the
sort of neither ends. -/
theorem rel_sort? {related : α → β → Prop} {items : List α} {others : List β}
    (each : List.Forall₂ related items others)
    (agree : ∀ first one second two, related first one → related second two →
      le first second = otherLe one two) :
    Option.Rel (List.Forall₂ related) (sort? known le items) (sort? known otherLe others) := by
  -- Both sorts are images of one sort of the pairs.
  have paired : ∀ pair ∈ items.zip others, related pair.1 pair.2 := fun pair member =>
    List.forall₂_zip each member
  have firsts : (items.zip others).map Prod.fst = items :=
    List.map_fst_zip (Nat.le_of_eq each.length_eq)
  have seconds : (items.zip others).map Prod.snd = others :=
    List.map_snd_zip (Nat.le_of_eq each.length_eq.symm)
  let pairLe (left right : α × β) : Bool := le left.1 right.1
  have sortedFirsts : (sort? known pairLe (items.zip others)).map (List.map Prod.fst) =
      sort? known le ((items.zip others).map Prod.fst) :=
    map_sort? fun _ _ _ _ => rfl
  have sortedSeconds : (sort? known pairLe (items.zip others)).map (List.map Prod.snd) =
      sort? known otherLe ((items.zip others).map Prod.snd) :=
    map_sort? fun left inLeft right inRight =>
      agree left.1 left.2 right.1 right.2 (paired left inLeft) (paired right inRight)
  rw [firsts] at sortedFirsts
  rw [seconds] at sortedSeconds
  rw [← sortedFirsts, ← sortedSeconds]
  cases ends : sort? known pairLe (items.zip others) with
  | none => exact .none
  | some sorted =>
    refine .some ?_
    rw [List.forall₂_map_left_iff, List.forall₂_map_right_iff, List.forall₂_same]
    exact fun pair member => paired pair ((perm_of_sort? ends).mem_iff.mp member)

end StableSort

end CampusQuery
