import CampusQuery.Proofs.Evaluation
import CampusQuery.Proofs.Sorting

/-!
# An order only rearranges

A query with an order and the same query without it have the same rows, so they are
refused together. Where no sort key holds what is not a number they are answered together,
and the order takes every row once, no row before one that it should follow, and rows that
tie on all of the keys in the sequence that they had, whichever way the order goes.
-/

namespace CampusQuery

namespace Query

/-- The direction in which the order goes. -/
def direction (raw : Json) : Direction := if descending raw then .down else .up

/-- The values under the sort keys in the row at a position. -/
def keysAt (dataset : Dataset) (raw : Json) (position : Nat) : Option (List (Option Value)) :=
  (table dataset raw)[position]?.map fun cell => (sortKeys raw).map cell

/-- How two rows stand to one another in the order: by the first sort key in which they
differ, numbers by where they stand and texts by code points, seen in the direction. -/
def compareAt (dataset : Dataset) (raw : Json) (left right : Nat) : Ordering :=
  (direction raw).apply (compare (keysAt dataset raw left) (keysAt dataset raw right))

/-- Positions in a stable arrangement: each position once, none before one that it should
follow, and positions that tie in increasing sequence. -/
structure Arranges (dataset : Dataset) (raw : Json) (positions : List Nat) : Prop where
  once : positions.Perm (List.range (size dataset raw))
  inOrder : positions.Pairwise fun earlier later => compareAt dataset raw earlier later ≠ .gt
  stable : positions.Pairwise fun earlier later =>
    compareAt dataset raw earlier later = .eq → earlier < later

/-- No sort key holds what is not a number. -/
def NumbersOnly (dataset : Dataset) (raw : Json) : Prop :=
  ∀ cell ∈ table dataset raw, ∀ name ∈ sortKeys raw, ∀ value ∈ cell name, ¬ value.IsNaN

instance (dataset : Dataset) (raw : Json) : Decidable (NumbersOnly dataset raw) :=
  inferInstanceAs (Decidable
    (∀ cell ∈ table dataset raw, ∀ name ∈ sortKeys raw, ∀ value ∈ cell name, ¬ value.IsNaN))

/-- A change of values by their names changes what is found under each name. -/
theorem lookup_map (change : String → Json → Json) (members : List (String × Json))
    (name : String) :
    (members.map fun (name, value) => (name, change name value)).lookup name =
      (members.lookup name).map (change name) := by
  induction members with
  | nil => rfl
  | cons member rest inductionHypothesis =>
    rw [List.map_cons, NameMap.lookup_cons_eq, NameMap.lookup_cons_eq, inductionHypothesis]
    by_cases same : name = member.1 <;> simp [same]

/-- Without the members of a name nothing else is lost. -/
theorem lookup_without {members : List (String × Json)} {name other : String}
    (different : other ≠ name) :
    (members.filter (·.1 ≠ name)).lookup other = members.lookup other := by
  rw [NameMap.lookup_filter (· ≠ name), if_pos (decide_eq_true different)]

/-- A member that is dropped is not found. -/
theorem lookup_dropped (members : List (String × Json)) (name : String) :
    (members.filter (·.1 ≠ name)).lookup name = none := by
  rw [NameMap.lookup_filter (· ≠ name), if_neg (by simp)]

end Query

/-- The plan without its order. -/
def Plan.unordered (plan : Plan) : Plan :=
  { plan with options := { plan.options with order := none } }

namespace Plan

variable {lookup : Lookup} {members : List (String × Json)} {plan : Plan}

/-- The query without its order spells the plan without its order. -/
theorem Spells.unordered (spelled : Spells lookup members plan) :
    ∃ others, Query.withoutOrder (.object members) = .object others ∧
      Spells lookup others plan.unordered := by
  refine ⟨_, rfl, ?_⟩
  obtain ⟨condition, conditionFound, conditionRead⟩ := spelled.condition
  obtain ⟨given, optionsFound, optionsSpelled⟩ := spelled.options
  have found (name : String) := Query.lookup_map
    (fun name value => if name = "OPTIONS" then value.without "ORDER" else value) members name
  refine ⟨?_, ⟨condition, ?_, conditionRead⟩,
    ⟨given.filter (·.1 ≠ "ORDER"), ?_, ?_⟩, ?_, spelled.found, spelled.owned, spelled.grouped⟩
  · intro member inOthers
    obtain ⟨⟨name, value⟩, inMembers, rfl⟩ := List.mem_map.mp inOthers
    exact spelled.known (name, value) inMembers
  · rw [found, conditionFound]
    simp
  · rw [found, optionsFound]
    rfl
  · exact ⟨fun member kept => optionsSpelled.known member (List.mem_filter.mp kept).1,
      (Query.lookup_without (by decide)).trans optionsSpelled.columns, optionsSpelled.selected,
      optionsSpelled.declared, optionsSpelled.agree, Query.lookup_dropped given "ORDER" ▸ .none⟩
  · have transformed := spelled.transformation
    rw [found]
    cases clause : members.lookup "TRANSFORMATIONS" <;> rw [clause] at transformed <;>
      exact transformed

/-- The keys of the order are labelled with the sort keys. -/
theorem Spells.sortKeys_eq (spelled : Spells lookup members plan) {order : SortOrder}
    (ordered : plan.options.order = some order) :
    Query.sortKeys (.object members) = order.keys.map Column.label := by
  obtain ⟨raw, present, written⟩ := spelled.order_written ordered
  rw [Query.sortKeys, present]
  cases written with
  | single column => rfl
  | directed known dir listed some =>
    simp only [Json.member_object listed]
    exact Json.texts_written Column.label _

/-- The direction is that of the order. -/
theorem Spells.direction_eq (spelled : Spells lookup members plan) {order : SortOrder}
    (ordered : plan.options.order = some order) :
    Query.direction (.object members) = order.direction := by
  obtain ⟨raw, present, written⟩ := spelled.order_written ordered
  rw [Query.direction, Query.descending, present, Option.bind_some]
  cases written with
  | single column => rfl
  | @directed members direction _ known dir =>
    rw [Json.member?, dir]
    cases direction <;> rfl

/-- The rows of a plan hold under the keys of its order what stands in the table. -/
theorem Spells.keys_match (spelled : Spells lookup members plan) {order : SortOrder}
    (ordered : plan.options.order = some order) {cell : String → Option Value} {row : Row}
    (fits : row.Fits plan) (matched : row.Matches plan.options.columns cell) :
    ((Query.sortKeys (.object members)).map cell).map (·.map Value.identity) =
      (row.keyValues order.keys).map (·.map Value.identity) := by
  rw [spelled.sortKeys_eq ordered, Row.keyValues, List.map_map, List.map_map, List.map_map]
  refine List.map_congr_left fun key member => ?_
  have selected := spelled.order_selected ordered member
  obtain ⟨value, read, -⟩ := fits key (spelled.resolves selected)
  obtain ⟨other, found, same⟩ := matched key selected value read
  simp [found, read, Except.toOption, same]

/-- Where the table has numbers and texts under the sort keys, so have the rows. -/
theorem Spells.numbersOnly (spelled : Spells lookup members plan) {order : SortOrder}
    (ordered : plan.options.order = some order)
    (numbers : Query.NumbersOnly plan.dataset (.object members)) {rows : List Row}
    (yielded : plan.Yields rows) : ∀ row ∈ rows, row.NumbersOnly order.keys := by
  intro row member key inKeys value read
  obtain ⟨cell, inTable, matched⟩ :=
    Checks.exists_of_mem_right (spelled.table_matches yielded) member
  obtain ⟨other, found, same⟩ := matched key (spelled.order_selected ordered inKeys) value read
  have listed : key.label ∈ Query.sortKeys (.object members) := by
    rw [spelled.sortKeys_eq ordered]
    exact List.mem_map_of_mem inKeys
  rw [← Value.isNaN_identity, ← same, Value.isNaN_identity]
  exact numbers cell inTable key.label listed other found

/-- Arranging the rows of a plan sorts them by the order of their values. -/
theorem Spells.arrange_eq (spelled : Spells lookup members plan) (typed : plan.WellTyped)
    {order : SortOrder} (ordered : plan.options.order = some order)
    (numbers : Query.NumbersOnly plan.dataset (.object members)) {rows : List Row}
    (yielded : plan.Yields rows) :
    plan.arrange rows = .ok (rows.mergeSort (Row.standsBefore order)) := by
  have resolved := typed.order order ordered
  have rowNumbers := spelled.numbersOnly ordered numbers yielded
  rw [arrange, ordered]
  exact Row.sort_eq yielded.fits resolved rowNumbers

/-- The rows of a plan are shown one by one, wherever they stand. -/
theorem WellTyped.shows_exist (typed : plan.WellTyped) {rows : List Row}
    (yielded : plan.Yields rows) :
    ∃ shows : Row → ResultRow,
      ∀ row ∈ rows, row.project plan.options.columns = .ok (shows row) := by
  refine ⟨fun row => (row.project plan.options.columns).toOption.getD default, ?_⟩
  intro row member
  obtain ⟨shown, projected⟩ := Row.project_exists (yielded.fits row member) typed.columns
  dsimp only
  rw [projected]
  rfl

/-- Rows stand to one another as their positions do in the order of the query. -/
theorem Spells.compareAt_eq (spelled : Spells lookup members plan) {order : SortOrder}
    (ordered : plan.options.order = some order) {rows : List Row} (yielded : plan.Yields rows)
    {earlier later : Nat} {left right : Row} (leftFound : rows[earlier]? = some left)
    (rightFound : rows[later]? = some right) :
    Query.compareAt plan.dataset (.object members) earlier later = order.direction.apply
      (compare (left.keyValues order.keys) (right.keyValues order.keys)) := by
  have matched := spelled.table_matches yielded
  obtain ⟨leftCell, leftPlace, leftMatched⟩ := Checks.exists_getElem?_left matched leftFound
  obtain ⟨rightCell, rightPlace, rightMatched⟩ := Checks.exists_getElem?_left matched rightFound
  have leftFits := yielded.fits left (List.mem_of_getElem? leftFound)
  have rightFits := yielded.fits right (List.mem_of_getElem? rightFound)
  rw [Query.compareAt, Query.keysAt, Query.keysAt, leftPlace, rightPlace, Option.map_some,
    Option.map_some, spelled.direction_eq ordered]
  exact congrArg order.direction.apply (Value.compare_of_identities
    (spelled.keys_match ordered leftFits leftMatched)
    (spelled.keys_match ordered rightFits rightMatched))

/-- Sorting the rows of a plan by its order arranges their positions. -/
theorem Spells.arranges (spelled : Spells lookup members plan) {order : SortOrder}
    (ordered : plan.options.order = some order) {rows : List Row} (yielded : plan.Yields rows) :
    ∃ positions, Query.Arranges plan.dataset (.object members) positions ∧
      List.Forall₂ (fun position row => rows[position]? = some row) positions
        (rows.mergeSort (Row.standsBefore order)) := by
  obtain ⟨positions, once, taken, sorted⟩ := mergeSort_positions
    (Row.standsBefore_trans order) (Row.standsBefore_total order) rows
  have place {position : Nat} (member : position ∈ positions) :
      ∃ row, rows[position]? = some row :=
    ⟨_, List.getElem?_eq_getElem (List.mem_range.mp (once.mem_iff.mp member))⟩
  refine ⟨positions, ⟨spelled.length_eq yielded ▸ once, ?_, ?_⟩, taken⟩
  · refine sorted.imp_of_mem fun inEarlier inLater stands => ?_
    obtain ⟨left, leftFound⟩ := place inEarlier
    obtain ⟨right, rightFound⟩ := place inLater
    rw [spelled.compareAt_eq ordered yielded leftFound rightFound]
    exact Ordering.isLE_iff_ne_gt.mp (stands left right leftFound rightFound).1
  · refine sorted.imp_of_mem fun inEarlier inLater stands tie => ?_
    obtain ⟨left, leftFound⟩ := place inEarlier
    obtain ⟨right, rightFound⟩ := place inLater
    rw [spelled.compareAt_eq ordered yielded leftFound rightFound] at tie
    exact (stands left right leftFound rightFound).2 (Row.standsBefore_of_tie tie)

end Plan

/-- An accepted query with an order and the same query without it are refused for the
same number of rows, or answered with the same rows: the order takes each of them once
and stands them in a stable arrangement by the sort keys. -/
theorem answer_arranges {lookup : Lookup} {limit : Nat} {raw order : Json} {plan : Plan}
    (accepted : Plan.ofQuery lookup raw = .ok plan) (ordered : Query.order? raw = some order)
    (numbers : Query.NumbersOnly plan.dataset raw) :
    (∃ count, answer lookup limit (Query.withoutOrder raw) =
        .error (.error (.tooLarge count limit)) ∧
      answer lookup limit raw = .error (.error (.tooLarge count limit))) ∨
    ∃ rows sorted positions, answer lookup limit (Query.withoutOrder raw) = .ok rows ∧
      answer lookup limit raw = .ok sorted ∧ Query.Evaluates plan.dataset raw rows ∧
      sorted.Perm rows ∧ Query.Arranges plan.dataset raw positions ∧
      List.Forall₂ (fun position row => rows[position]? = some row) positions sorted := by
  have typed := Plan.wellTyped_of_ofQuery accepted
  obtain ⟨members, rfl, spelled⟩ := Plan.ofQuery_eq_ok_iff.mp accepted
  obtain ⟨rows, done, yielded⟩ := typed.rows_exist
  have clause := spelled.order_rel
  rw [ordered, Checks.rel_some_iff] at clause
  obtain ⟨sortOrder, present, -, -⟩ := clause
  obtain ⟨others, without, othersSpelled⟩ := spelled.unordered
  have acceptedWithout : Plan.ofQuery lookup (.object others) = .ok plan.unordered :=
    Plan.ofQuery_eq_ok_iff.mpr ⟨others, rfl, othersSpelled⟩
  have doneWithout : plan.unordered.rows = .ok rows := done
  rw [without, answer, answer, accepted, acceptedWithout]
  by_cases exceeded : limit < rows.length
  · exact .inl ⟨rows.length, Plan.execute_eq_tooLarge doneWithout exceeded,
      Plan.execute_eq_tooLarge done exceeded⟩
  · have within := Nat.not_lt.mp exceeded
    have inOrder := spelled.arrange_eq typed present numbers yielded
    obtain ⟨shows, each⟩ := typed.shows_exist yielded
    have kept : ∀ row ∈ rows.mergeSort (Row.standsBefore sortOrder), row ∈ rows :=
      fun row member => List.mem_mergeSort.mp member
    have shown := Checks.mapM_eq_map each
    have sortedShown := Checks.mapM_eq_map fun row member => each row (kept row member)
    obtain ⟨positions, arranged, taken⟩ := spelled.arranges present yielded
    refine .inr ⟨_, _, positions, Plan.execute_eq_ok doneWithout within rfl shown,
      Plan.execute_eq_ok done within inOrder sortedShown, spelled.evaluates yielded shown,
      (List.mergeSort_perm rows _).map _, arranged, ?_⟩
    rw [List.forall₂_map_right_iff]
    refine taken.imp fun position row found => ?_
    rw [List.getElem?_map, found, Option.map_some]

/-- The ranking of departments has the rows of the count without an order, rearranged. -/
theorem ranked_arranges : ∃ plan rows sorted positions,
    Plan.ofQuery (.ofList [Sample.dataset]) Sample.ranked = .ok plan ∧
      answer (.ofList [Sample.dataset]) 3 (Sample.counted []) = .ok rows ∧
      answer (.ofList [Sample.dataset]) 3 Sample.ranked = .ok sorted ∧ sorted.Perm rows ∧
      Query.Arranges plan.dataset Sample.ranked positions := by
  obtain ⟨plan, accepted, bound⟩ : ∃ plan,
      Plan.ofQuery (.ofList [Sample.dataset]) Sample.ranked = .ok plan ∧
        plan.dataset = Sample.dataset :=
    Checks.exists_ok_of_seen (by decide +kernel)
  have numbers : Query.NumbersOnly plan.dataset Sample.ranked := by
    rw [bound]
    decide +kernel
  have answered : (answer (.ofList [Sample.dataset]) 3
      (Query.withoutOrder Sample.ranked)).toOption.isSome = true := by
    decide +kernel
  rcases answer_arranges accepted (rfl : _ = some _) numbers with
    ⟨count, refused, -⟩ | ⟨rows, sorted, positions, unsorted, found, -, same, arranged, -⟩
  · rw [refused] at answered
    cases answered
  · exact ⟨plan, rows, sorted, positions, accepted, unsorted, found, same, arranged⟩

end CampusQuery
