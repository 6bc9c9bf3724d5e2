import CampusQuery.Proofs.Ordering

/-!
# The table in order

The order of a query can be carried out on its table, before any row is made. The cells of
a table row compare as the row itself does, whichever record stands for a group and whatever
sign a zero has, so sorting the table and then showing its rows is the same as sorting the
rows. This holds of every accepted query. What is not a number ties with everything, and then
the comparison may contradict itself and the sort need not end; but the two sorts make the same
comparisons and take the same decisions, so both end or neither does.
-/

namespace CampusQuery

/-- A comparison does not see the sign of a zero. -/
theorem Row.compareValues?_identity (left right : Value) :
    compareValues? left.identity right.identity = compareValues? left right := by
  cases left <;> cases right <;>
    simp only [compareValues?, Value.identity, Binary64.compare?, Binary64.position?_identity]

namespace Query

/-- How two rows of a table stand to one another under a name. Where one of them has nothing
there, they tie. -/
def compareUnder (name : String) (left right : String → Option Value) : Ordering :=
  ((left name).bind fun one => (right name).bind fun other => Row.compareValues? one other).getD .eq

/-- How they stand to one another by the first name under which they differ. -/
def compareCells : List String → (String → Option Value) → (String → Option Value) → Ordering
  | [], _, _ => .eq
  | name :: rest, left, right =>
    (compareUnder name left right).then (compareCells rest left right)

/-- Whether a row of the table may stand before another in the order of the query. -/
def mayPrecede (raw : Json) (left right : String → Option Value) : Bool :=
  ((direction raw).apply (compareCells (sortKeys raw) left right)).isLE

/-- The table in the order of the query, if the sort ends; rows that tie stay as they were. -/
def arranged (dataset : Dataset) (raw : Json) : Option (List (String → Option Value)) :=
  StableSort.sort? false (mayPrecede raw) (table dataset raw)

/-- The table of a query cannot be sorted. It has more rows than are sorted by insertion, not
all of them hold numbers and texts under the sort keys, and three of them contradict one another
in the order: the first may stand before the second and the second before the third, but not the
first before the third. -/
structure Unsortable (dataset : Dataset) (raw : Json) : Prop where
  many : StableSort.insertionLimit < size dataset raw
  unplaced : ¬NumbersOnly dataset raw
  contradiction : ∃ first ∈ table dataset raw, ∃ second ∈ table dataset raw,
    ∃ third ∈ table dataset raw, mayPrecede raw first second = true ∧
      mayPrecede raw second third = true ∧ mayPrecede raw first third = false

instance (dataset : Dataset) (raw : Json) : Decidable (Unsortable dataset raw) :=
  decidable_of_iff (StableSort.insertionLimit < size dataset raw ∧ ¬NumbersOnly dataset raw ∧
      ∃ first ∈ table dataset raw, ∃ second ∈ table dataset raw, ∃ third ∈ table dataset raw,
        mayPrecede raw first second = true ∧ mayPrecede raw second third = true ∧
          mayPrecede raw first third = false)
    ⟨fun ⟨many, unplaced, contradiction⟩ => ⟨many, unplaced, contradiction⟩,
      fun ⟨many, unplaced, contradiction⟩ => ⟨many, unplaced, contradiction⟩⟩

/-- Comparisons do not see the sign of a zero. -/
theorem mayPrecede_of_identities (raw : Json) {left right other another : String → Option Value}
    (leftSame : ∀ name, (other name).map Value.identity = (left name).map Value.identity)
    (rightSame : ∀ name, (another name).map Value.identity = (right name).map Value.identity) :
    mayPrecede raw other another = mayPrecede raw left right := by
  have under (name : String) : compareUnder name other another = compareUnder name left right := by
    have values (one two : Option Value) :
        (one.bind fun first => two.bind fun second => Row.compareValues? first second) =
          (one.map Value.identity).bind fun first =>
            (two.map Value.identity).bind fun second => Row.compareValues? first second := by
      cases one <;> cases two <;>
        simp only [Option.bind_none, Option.bind_some, Option.map_none, Option.map_some,
          Row.compareValues?_identity]
    rw [compareUnder, compareUnder, values, values (left name), leftSame, rightSame]
  have cells (names : List String) :
      compareCells names other another = compareCells names left right := by
    induction names with
    | nil => rfl
    | cons name rest inductionHypothesis =>
      rw [compareCells, compareCells, under, inductionHypothesis]
  rw [mayPrecede, mayPrecede, cells]

/-- Without an order the table stays as it is. -/
theorem arranged_of_unordered {dataset : Dataset} {raw : Json} (unordered : order? raw = none) :
    arranged dataset raw = some (table dataset raw) := by
  have upwards : direction raw = .up := by
    simp [direction, descending, unordered]
  have noKeys : sortKeys raw = [] := by
    simp [sortKeys, unordered]
  have always (left right : String → Option Value) : mayPrecede raw left right = true := by
    rw [mayPrecede, upwards, noKeys]
    rfl
  have agrees : StableSort.agreesOn (mayPrecede raw) (table dataset raw) = true :=
    StableSort.agreesOn_iff.mpr fun first _ _ _ third _ _ _ => always first third
  rw [arranged, StableSort.sort?_of_agreesOn agrees,
    List.mergeSort_of_pairwise (List.pairwise_of_forall always)]

/-- The arranged table has the rows of the table. -/
theorem perm_of_arranged {dataset : Dataset} {raw : Json} {cells : List (String → Option Value)}
    (sorted : arranged dataset raw = some cells) : cells.Perm (table dataset raw) :=
  StableSort.perm_of_sort? sorted

end Query

namespace Row

variable {plan : Plan} {columns : List Column}

/-- Rows compare by a column as the cells compare that they match. -/
theorem compareBy_eq_compareUnder {left right : Row} {leftCell rightCell : String → Option Value}
    (leftFits : left.Fits plan) (rightFits : right.Fits plan)
    (leftMatched : left.Matches columns leftCell) (rightMatched : right.Matches columns rightCell)
    {column : Column} (resolved : plan.Resolves column) (selected : column ∈ columns) :
    compareBy column left right = .ok (Query.compareUnder column.label leftCell rightCell) := by
  obtain ⟨leftValue, leftRead, leftType⟩ := leftFits column resolved
  obtain ⟨rightValue, rightRead, rightType⟩ := rightFits column resolved
  obtain ⟨leftOther, leftFound, leftSame⟩ := leftMatched column selected leftValue leftRead
  obtain ⟨rightOther, rightFound, rightSame⟩ := rightMatched column selected rightValue rightRead
  obtain ⟨ordering, compared⟩ := compareValues?_exists (leftType.trans rightType.symm)
  have othersCompared : compareValues? leftOther rightOther = some ordering := by
    rw [← compareValues?_identity, leftSame, rightSame, compareValues?_identity, compared]
  simp [compareBy, leftRead, rightRead, compared, Query.compareUnder, leftFound, rightFound,
    othersCompared]

/-- So they do by any list of columns. -/
theorem compareByAll_eq_compareCells {left right : Row}
    {leftCell rightCell : String → Option Value}
    (leftFits : left.Fits plan) (rightFits : right.Fits plan)
    (leftMatched : left.Matches columns leftCell) (rightMatched : right.Matches columns rightCell)
    (direction : Direction) {keys : List Column} (resolved : ∀ key ∈ keys, plan.Resolves key)
    (selected : ∀ key ∈ keys, key ∈ columns) :
    compareByAll direction keys left right = .ok (direction.apply
      (Query.compareCells (keys.map Column.label) leftCell rightCell)) := by
  induction keys with
  | nil => cases direction <;> rfl
  | cons key rest inductionHypothesis =>
    obtain ⟨first, others⟩ := List.forall_mem_cons.mp resolved
    obtain ⟨firstSelected, othersSelected⟩ := List.forall_mem_cons.mp selected
    have compared :=
      compareBy_eq_compareUnder leftFits rightFits leftMatched rightMatched first firstSelected
    rw [compareByAll, compared, Checks.ok_bind, List.map_cons, Query.compareCells,
      Direction.apply_then, inductionHypothesis others othersSelected]
    cases direction.apply (Query.compareUnder key.label leftCell rightCell) <;> rfl

end Row

namespace Plan

variable {lookup : Lookup} {members : List (String × Json)} {plan : Plan}

/-- Arranging the rows of a plan arranges the table that they match, or the sort of neither
ends. -/
theorem Spells.arrange_matches (spelled : Spells lookup members plan) (typed : plan.WellTyped)
    {rows : List Row} (yielded : plan.Yields rows) :
    ∃ outcome : Option (List Row),
      plan.arrange rows = outcome.elim (.error .contradictoryOrder) .ok ∧
      Option.Rel
        (List.Forall₂ fun cell row => row.Matches plan.options.columns cell ∧ row.Fits plan)
        (Query.arranged plan.dataset (.object members)) outcome := by
  have matched := Checks.forall₂_and_right (spelled.table_matches yielded) yielded.fits
  unfold arrange
  cases ordered : plan.options.order with
  | none =>
    have clause := spelled.order_rel
    rw [ordered, Checks.rel_none_right_iff] at clause
    rw [Query.arranged_of_unordered clause]
    exact ⟨some rows, rfl, .some matched⟩
  | some order =>
    have resolved := typed.order order ordered
    have compared {left right : Row} {leftCell rightCell : String → Option Value}
        (leftMatches : left.Matches plan.options.columns leftCell ∧ left.Fits plan)
        (rightMatches : right.Matches plan.options.columns rightCell ∧ right.Fits plan) :
        Row.compareByAll order.direction order.keys left right =
          .ok (order.direction.apply
            (Query.compareCells (order.keys.map Column.label) leftCell rightCell)) :=
      Row.compareByAll_eq_compareCells leftMatches.2 rightMatches.2 leftMatches.1 rightMatches.1
        order.direction resolved fun key member => spelled.order_selected ordered member
    refine ⟨_, Row.sort_eq_elim yielded.fits resolved, StableSort.rel_sort? matched ?_⟩
    intro leftCell left rightCell right leftMatches rightMatches
    rw [Query.mayPrecede, spelled.direction_eq ordered, spelled.sortKeys_eq ordered,
      Row.precedes, compared leftMatches rightMatches]
    cases order.direction.apply
      (Query.compareCells (order.keys.map Column.label) leftCell rightCell) <;> rfl

/-- A table that has numbers and texts under the sort keys is arranged. -/
theorem Spells.arranged_of_numbers (spelled : Spells lookup members plan)
    (typed : plan.WellTyped) (numbers : Query.NumbersOnly plan.dataset (.object members)) :
    ∃ cells, Query.arranged plan.dataset (.object members) = some cells := by
  obtain ⟨rows, -, yielded⟩ := typed.rows_exist
  obtain ⟨outcome, inOrder, matched⟩ := spelled.arrange_matches typed yielded
  generalize Query.arranged plan.dataset (.object members) = cells at matched ⊢
  cases matched with
  | some => exact ⟨_, rfl⟩
  | none =>
    have arranged : ∃ sorted, plan.arrange rows = .ok sorted := by
      cases ordered : plan.options.order with
      | none => exact ⟨rows, by rw [arrange, ordered]⟩
      | some order => exact ⟨_, spelled.arrange_eq typed ordered numbers yielded⟩
    obtain ⟨sorted, ends⟩ := arranged
    rw [inOrder] at ends
    cases ends

/-- The sort of a plan's table does not end exactly where the table cannot be sorted. -/
theorem Spells.arranged_eq_none_iff (spelled : Spells lookup members plan)
    (typed : plan.WellTyped) :
    Query.arranged plan.dataset (.object members) = none ↔
      Query.Unsortable plan.dataset (.object members) := by
  have length : (Query.table plan.dataset (.object members)).length =
      Query.size plan.dataset (.object members) := rfl
  constructor
  · intro stopped
    obtain ⟨many, contradiction⟩ := StableSort.sort?_eq_none_iff.mp stopped
    refine ⟨length ▸ many, fun numbers => ?_, contradiction⟩
    obtain ⟨cells, sorted⟩ := spelled.arranged_of_numbers typed numbers
    rw [stopped] at sorted
    cases sorted
  · rintro ⟨many, -, contradiction⟩
    exact StableSort.sort?_eq_none_iff.mpr ⟨length ▸ many, contradiction⟩

end Plan

end CampusQuery
