import CampusQuery.Proofs.Arrangement

/-!
# The rows of an answer

What a row shows determines it: there is one row for given columns and given values
under their names. So the arranged table of a query determines its answer. Every accepted
query is answered with the rows of that table, or refused because there are more of them
than the limit allows; only a table that cannot be sorted gives neither. Statements about
answers need nothing else of how a plan is carried out.

The limit decides between the two and has no other part in the answer: neither the rows nor
their number depend on it.
-/

namespace CampusQuery

namespace Query

/-- The row of columns with the values that stand under their names. -/
def rowOf (columns : List String) (cell : String → Option Value) : ResultRow :=
  .ofList (columns.filterMap fun name => (cell name).map fun value => (name, value.toJson))

/-- The rows that a query means, in the order of its table. -/
def rows (dataset : Dataset) (raw : Json) : List ResultRow :=
  (table dataset raw).map (rowOf (columns raw))

/-- The rows with which a query is answered: those that it means, in the order that it
asks for, if the sort ends. -/
def orderedRows (dataset : Dataset) (raw : Json) : Option (List ResultRow) :=
  (arranged dataset raw).map (List.map (rowOf (columns raw)))

/-- What a query gives that its limit allows: rows of which something holds, unless its table
cannot be sorted. -/
inductive Gives (dataset : Dataset) (raw : Json) (holds : List ResultRow → Prop) :
    Except Failure (List ResultRow) → Prop where
  | rows {rows : List ResultRow} (found : holds rows) : Gives dataset raw holds (.ok rows)
  | stopped (unsortable : Unsortable dataset raw) :
    Gives dataset raw holds (.error (.defect .contradictoryOrder))

/-- A row has under a column what stands there, and nothing under other names. -/
theorem get?_rowOf (columns : List String) (cell : String → Option Value) (name : String) :
    (rowOf columns cell).get? name =
      if name ∈ columns then (cell name).map Value.toJson else none := by
  have pair_mem {other : String} {json : Json} : (other, json) ∈ columns.filterMap
      (fun name => (cell name).map fun value => (name, value.toJson)) ↔
        other ∈ columns ∧ (cell other).map Value.toJson = some json := by
    simp only [List.mem_filterMap, Option.map_eq_some_iff, Prod.mk.injEq]
    constructor
    · rintro ⟨_, member, value, found, rfl, rfl⟩
      exact ⟨member, value, found, rfl⟩
    · rintro ⟨member, value, found, rfl⟩
      exact ⟨other, member, value, found, rfl, rfl⟩
  have none_of_absent (absent : ∀ json, ¬ (name ∈ columns ∧
      (cell name).map Value.toJson = some json)) : (rowOf columns cell).get? name = none := by
    refine NameMap.get?_ofList_eq_none fun listed => ?_
    obtain ⟨⟨_, json⟩, member, rfl⟩ := List.mem_map.mp listed
    exact absent json (pair_mem.mp member)
  split
  · rename_i selected
    cases found : (cell name).map Value.toJson with
    | none => exact none_of_absent fun json ⟨_, other⟩ => by simp [found] at other
    | some json =>
      refine NameMap.get?_ofList_of_mem (pair_mem.mpr ⟨selected, found⟩) fun other again => ?_
      exact Option.some.inj ((pair_mem.mp again).2.symm.trans found)
  · rename_i unselected
    exact none_of_absent fun json ⟨selected, _⟩ => unselected selected

/-- A row is determined by what it shows. -/
theorem Shows.eq_rowOf {columns : List String} {cell : String → Option Value} {row : ResultRow}
    (shown : Shows columns cell row) : row = rowOf columns cell := by
  refine NameMap.eq_of_get? fun name => ?_
  rw [get?_rowOf]
  split
  · rename_i selected
    obtain ⟨value, found, held⟩ := shown.present name selected
    rw [held, found, Option.map_some]
  · rename_i unselected
    exact shown.absent name unselected

/-- A query has as many rows as its size says. -/
theorem length_rows (dataset : Dataset) (raw : Json) :
    (rows dataset raw).length = size dataset raw := by
  rw [rows, List.length_map, size]

/-- An order takes every row once. -/
theorem perm_of_orderedRows {dataset : Dataset} {raw : Json} {ordered : List ResultRow}
    (sorted : orderedRows dataset raw = some ordered) : ordered.Perm (rows dataset raw) := by
  obtain ⟨cells, found, rfl⟩ := Option.map_eq_some_iff.mp sorted
  exact (perm_of_arranged found).map (rowOf (columns raw))

/-- Without an order the rows stay as they are. -/
theorem orderedRows_of_unordered {dataset : Dataset} {raw : Json}
    (unordered : order? raw = none) : orderedRows dataset raw = some (rows dataset raw) := by
  rw [orderedRows, arranged_of_unordered unordered, Option.map_some, rows]

/-- A query without an order has nothing to sort. -/
theorem sortable_of_unordered {dataset : Dataset} {raw : Json} (unordered : order? raw = none) :
    ¬Unsortable dataset raw := by
  intro unsortable
  have noKeys : sortKeys raw = [] := by simp [sortKeys, unordered]
  refine unsortable.unplaced fun cell _ name listed => ?_
  rw [noKeys] at listed
  cases listed

/-- What holds of the rows that a query gives may be weakened. -/
theorem Gives.imp {dataset : Dataset} {raw : Json} {holds others : List ResultRow → Prop}
    {outcome : Except Failure (List ResultRow)} (gives : Gives dataset raw holds outcome)
    (implies : ∀ rows, holds rows → others rows) : Gives dataset raw others outcome := by
  cases gives with
  | rows found => exact .rows (implies _ found)
  | stopped unsortable => exact .stopped unsortable

/-- Where the table can be sorted, rows are given. -/
theorem Gives.exists_rows {dataset : Dataset} {raw : Json} {holds : List ResultRow → Prop}
    {outcome : Except Failure (List ResultRow)} (gives : Gives dataset raw holds outcome)
    (sortable : ¬Unsortable dataset raw) : ∃ rows, outcome = .ok rows ∧ holds rows := by
  cases gives with
  | rows found => exact ⟨_, rfl, found⟩
  | stopped unsortable => exact absurd unsortable sortable

/-- Of rows that are given, what holds of such rows does. -/
theorem Gives.of_ok {dataset : Dataset} {raw : Json} {holds : List ResultRow → Prop}
    {rows : List ResultRow} (gives : Gives dataset raw holds (.ok rows)) : holds rows := by
  cases gives with
  | rows found => exact found

/-- A query without groups has a row for each record that satisfies its condition. -/
theorem size_of_plain {dataset : Dataset} {raw : Json} (plain : grouping? raw = none) :
    size dataset raw = (selected dataset raw).length := by
  rw [size, table, plain, List.length_map]

end Query

variable {lookup : Lookup} {limit : Nat} {raw : Json} {plan : Plan}

/-- Rows of a plan that match the cells of a table show the rows of the table. -/
theorem Plan.WellTyped.project_matches (typed : plan.WellTyped)
    {cells : List (String → Option Value)} {rows : List Row}
    (each : List.Forall₂ (fun cell row => row.Matches plan.options.columns cell ∧ row.Fits plan)
      cells rows) :
    rows.mapM (Row.project plan.options.columns) =
      .ok (cells.map (Query.rowOf plan.options.labels)) := by
  rw [Checks.mapM_eq_ok_iff, List.forall₂_map_right_iff]
  refine List.Forall₂.flip (each.imp ?_)
  intro cell row ⟨matched, fits⟩
  obtain ⟨shown, projected⟩ := Row.project_exists fits typed.columns
  have shows := Row.project_shows projected matched
  exact projected.trans (congrArg Except.ok shows.eq_rowOf)

/-- Every accepted query is answered with the rows of its arranged table, unless there are
more of them than the limit allows; the refusal counts all of them. Where the sort of the table
does not end, nothing is answered. -/
theorem answer_eq (accepted : Plan.ofQuery lookup raw = .ok plan) (limit : Nat) :
    answer lookup limit raw =
      if Query.size plan.dataset raw ≤ limit then
        (Query.orderedRows plan.dataset raw).elim (.error (.defect .contradictoryOrder)) .ok
      else .error (.error (.tooLarge (Query.size plan.dataset raw) limit)) := by
  have typed := Plan.wellTyped_of_ofQuery accepted
  rw [answer, accepted]
  obtain ⟨members, rfl, spelled⟩ := Plan.ofQuery_eq_ok_iff.mp accepted
  obtain ⟨rows, done, yielded⟩ := typed.rows_exist
  rw [← spelled.length_eq yielded]
  by_cases within : rows.length ≤ limit
  · obtain ⟨outcome, inOrder, matched⟩ := spelled.arrange_matches typed yielded
    rw [if_pos within, Query.orderedRows, spelled.columns_eq]
    generalize Query.arranged plan.dataset (.object members) = cells at matched ⊢
    cases matched with
    | some each => exact Plan.execute_eq_ok done within inOrder (typed.project_matches each)
    | none => exact Plan.execute_eq_defect done within inOrder
  · rw [if_neg within]
    exact Plan.execute_eq_tooLarge done (Nat.lt_of_not_le within)

/-- An accepted query with more rows than the limit is refused, and the refusal counts all
of them. -/
theorem answer_eq_tooLarge (accepted : Plan.ofQuery lookup raw = .ok plan)
    (exceeded : limit < Query.size plan.dataset raw) :
    answer lookup limit raw =
      .error (.error (.tooLarge (Query.size plan.dataset raw) limit)) := by
  rw [answer_eq accepted, if_neg (Nat.not_le.mpr exceeded)]

/-- The rows of an accepted query are not ordered exactly where its table cannot be sorted. -/
theorem orderedRows_eq_none_iff (accepted : Plan.ofQuery lookup raw = .ok plan) :
    Query.orderedRows plan.dataset raw = none ↔ Query.Unsortable plan.dataset raw := by
  have typed := Plan.wellTyped_of_ofQuery accepted
  obtain ⟨members, rfl, spelled⟩ := Plan.ofQuery_eq_ok_iff.mp accepted
  rw [Query.orderedRows, Option.map_eq_none_iff]
  exact spelled.arranged_eq_none_iff typed

/-- An accepted query that its limit allows gives its ordered rows. -/
theorem answer_gives (accepted : Plan.ofQuery lookup raw = .ok plan)
    (within : Query.size plan.dataset raw ≤ limit) :
    Query.Gives plan.dataset raw (fun rows => Query.orderedRows plan.dataset raw = some rows)
      (answer lookup limit raw) := by
  rw [answer_eq accepted, if_pos within]
  cases ordered : Query.orderedRows plan.dataset raw with
  | none => exact .stopped ((orderedRows_eq_none_iff accepted).mp ordered)
  | some rows => exact .rows rfl

/-- Under any limit it is answered with rows, refused for their number, or its table cannot be
sorted. -/
theorem answer_outcome (accepted : Plan.ofQuery lookup raw = .ok plan) (limit : Nat) :
    (∃ rows, answer lookup limit raw = .ok rows) ∨
      (limit < Query.size plan.dataset raw ∧ answer lookup limit raw =
        .error (.error (.tooLarge (Query.size plan.dataset raw) limit))) ∨
      Query.Unsortable plan.dataset raw ∧
        answer lookup limit raw = .error (.defect .contradictoryOrder) := by
  by_cases within : Query.size plan.dataset raw ≤ limit
  · have gives := answer_gives accepted within
    generalize answer lookup limit raw = outcome at gives ⊢
    cases gives with
    | rows => exact .inl ⟨_, rfl⟩
    | stopped unsortable => exact .inr (.inr ⟨unsortable, rfl⟩)
  · have exceeded := Nat.lt_of_not_le within
    exact .inr (.inl ⟨exceeded, answer_eq_tooLarge accepted exceeded⟩)

/-- The rows given are those that it means: in another sequence if it asks for an order, and as
they stand if it does not. -/
theorem answer_gives_perm (accepted : Plan.ofQuery lookup raw = .ok plan)
    (within : Query.size plan.dataset raw ≤ limit) :
    Query.Gives plan.dataset raw (fun rows => rows.Perm (Query.rows plan.dataset raw))
      (answer lookup limit raw) :=
  (answer_gives accepted within).imp fun _ => Query.perm_of_orderedRows

/-- Without an order there is nothing to sort, and it is answered with these rows. -/
theorem answer_of_unordered (accepted : Plan.ofQuery lookup raw = .ok plan)
    (within : Query.size plan.dataset raw ≤ limit) (unordered : Query.order? raw = none) :
    answer lookup limit raw = .ok (Query.rows plan.dataset raw) := by
  rw [answer_eq accepted, if_pos within, Query.orderedRows_of_unordered unordered,
    Option.elim_some]

/-- Where the table cannot be sorted it is not answered. -/
theorem answer_of_unsortable (accepted : Plan.ofQuery lookup raw = .ok plan)
    (within : Query.size plan.dataset raw ≤ limit)
    (unsortable : Query.Unsortable plan.dataset raw) :
    answer lookup limit raw = .error (.defect .contradictoryOrder) := by
  rw [answer_eq accepted, if_pos within, (orderedRows_eq_none_iff accepted).mpr unsortable,
    Option.elim_none]

/-- Rows with which an accepted query is answered are its ordered rows. -/
theorem orderedRows_of_answer (accepted : Plan.ofQuery lookup raw = .ok plan)
    {rows : List ResultRow} (answered : answer lookup limit raw = .ok rows) :
    Query.orderedRows plan.dataset raw = some rows := by
  by_cases within : Query.size plan.dataset raw ≤ limit
  · have gives := answer_gives accepted within
    rw [answered] at gives
    exact gives.of_ok
  · rw [answer_eq_tooLarge accepted (Nat.lt_of_not_le within)] at answered
    cases answered

/-- They are those that it means, rearranged. -/
theorem perm_of_answer (accepted : Plan.ofQuery lookup raw = .ok plan) {rows : List ResultRow}
    (answered : answer lookup limit raw = .ok rows) : rows.Perm (Query.rows plan.dataset raw) :=
  Query.perm_of_orderedRows (orderedRows_of_answer accepted answered)

end CampusQuery
