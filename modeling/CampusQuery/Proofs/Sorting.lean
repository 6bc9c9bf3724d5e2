import CampusQuery.Proofs.Places
import CampusQuery.Proofs.Safety

/-!
# Sorting rows

Values of one type are ordered, numbers by where they stand and texts by code points,
and lists of values lexicographically. On rows whose keys hold no value that is not a
number the comparison of rows is this order, seen in the direction; so it is total and
transitive there, and sorting by it is stable in either direction. Of other rows it is
known that sorting them keeps all of them, if it ends.
-/

namespace CampusQuery

namespace Value

/-- The order of values. A column never mixes numbers with texts. -/
def order : Value → Value → Ordering
  | number left, number right => compare left.position? right.position?
  | text left, text right => compare left right
  | number _, text _ => .lt
  | text _, number _ => .gt

instance : Ord Value := ⟨order⟩

/-- The order of two values turns around with them. -/
theorem order_swap (left right : Value) : order left right = (order right left).swap := by
  cases left <;> cases right <;> simp only [order, Ordering.swap]
  · exact Std.OrientedCmp.eq_swap
  · exact Std.OrientedCmp.eq_swap

/-- The order of values is transitive. -/
theorem order_trans {left middle right : Value} (first : (order left middle).isLE = true)
    (second : (order middle right).isLE = true) : (order left right).isLE = true := by
  cases left <;> cases middle <;> cases right <;>
    simp only [order, Ordering.isLE, Bool.false_eq_true] at first second ⊢
  · exact Std.TransCmp.isLE_trans first second
  · exact Std.TransCmp.isLE_trans first second

instance : Std.TransOrd Value where
  eq_swap {left right} := order_swap left right
  isLE_trans := order_trans

/-- A value that is no text and not a number either. -/
def IsNaN : Value → Prop
  | number (.nan _) => True
  | _ => False

instance : DecidablePred IsNaN
  | number (.nan _) => isTrue trivial
  | number (.finite ..) => isFalse id
  | number (.infinite _) => isFalse id
  | text _ => isFalse id

/-- A value has a place in an order unless it is no number where one should be. -/
theorem hasPlace_iff {value : Value} : value.hasPlace = true ↔ ¬value.IsNaN := by
  cases value with
  | text => exact iff_of_true rfl id
  | number number =>
    cases number with
    | finite => exact iff_of_true rfl id
    | infinite => exact iff_of_true rfl id
    | nan => exact iff_of_false Bool.false_ne_true fun placed => placed trivial

/-- Whether a value is a number does not depend on the sign of a zero. -/
theorem isNaN_identity {value : Value} : value.identity.IsNaN ↔ value.IsNaN := by
  cases value with
  | text => rfl
  | number number => cases number <;> rfl

/-- The order does not see the sign of a zero. -/
theorem compare_identity (left right : Value) :
    compare left.identity right.identity = compare left right := by
  cases left <;> cases right <;>
    simp only [compare, order, identity, Binary64.position?_identity]

/-- Lists of values of the same identities are ordered alike. -/
theorem compare_of_identities {left left' right right' : List (Option Value)}
    (leftSame : left.map (·.map identity) = left'.map (·.map identity))
    (rightSame : right.map (·.map identity) = right'.map (·.map identity)) :
    compare left right = compare left' right' := by
  have one (first second : Option Value) :
      compare (first.map identity) (second.map identity) = compare first second := by
    cases first <;> cases second <;> first | rfl | exact compare_identity _ _
  have all (first second : List (Option Value)) :
      compare (first.map (·.map identity)) (second.map (·.map identity)) =
        compare first second := by
    induction first generalizing second with
    | nil => cases second <;> rfl
    | cons value rest inductionHypothesis =>
      cases second with
      | nil => rfl
      | cons other others =>
        rw [List.map_cons, List.map_cons, List.compare_cons_cons, List.compare_cons_cons, one,
          inductionHypothesis]
  rw [← all left right, leftSame, rightSame, all left' right']

end Value

namespace Direction

/-- Among equals a direction leaves the decision to what comes after. -/
theorem apply_then (direction : Direction) (first second : Ordering) :
    direction.apply (first.then second) =
      match direction.apply first with
      | .eq => direction.apply second
      | decided => decided := by
  cases direction <;> cases first <;> rfl

/-- A direction turns around with the two sides. -/
theorem apply_swap (direction : Direction) (ordering : Ordering) :
    direction.apply ordering.swap = (direction.apply ordering).swap := by
  cases direction <;> rfl

variable {α : Type} [Ord α] [Std.TransOrd α]

/-- Downwards the sides change places. -/
theorem apply_down (left right : α) : apply down (compare left right) = compare right left :=
  Std.OrientedCmp.eq_swap.symm

/-- In either direction an order is transitive. -/
theorem isLE_trans (direction : Direction) {left middle right : α}
    (first : (direction.apply (compare left middle)).isLE = true)
    (second : (direction.apply (compare middle right)).isLE = true) :
    (direction.apply (compare left right)).isLE = true := by
  cases direction with
  | up =>
    simp only [apply] at first second ⊢
    exact Std.TransCmp.isLE_trans first second
  | down =>
    rw [apply_down] at first second ⊢
    exact Std.TransCmp.isLE_trans second first

/-- In either direction an order is total. -/
theorem isLE_total (direction : Direction) (left right : α) :
    ((direction.apply (compare left right)).isLE ||
      (direction.apply (compare right left)).isLE) = true := by
  rw [← apply_down left right]
  cases direction <;> cases compare left right <;> rfl

end Direction

namespace Row

variable {plan : Plan}

/-- The values of a row under keys. -/
def keyValues (keys : List Column) (row : Row) : List (Option Value) :=
  keys.map fun key => (row.value key).toOption

/-- No key of the row holds what is not a number. -/
def NumbersOnly (keys : List Column) (row : Row) : Prop :=
  ∀ key ∈ keys, ∀ value, row.value key = .ok value → ¬ value.IsNaN

/-- The check that a row has its places is the one that no key holds what is not a number. -/
theorem hasPlaces_iff {keys : List Column} {row : Row} :
    row.hasPlaces keys = true ↔ row.NumbersOnly keys := by
  simp only [hasPlaces, NumbersOnly, List.all_eq_true]
  refine forall₂_congr fun key _ => ?_
  cases row.value key with
  | error defect => simp [Except.toOption]
  | ok value => simp [Except.toOption, Value.hasPlace_iff]

/-- Values of one type compare by the order, unless one of them is not a number. -/
theorem compareValues?_eq {left right : Value} (same : left.type = right.type)
    (leftNumber : ¬ left.IsNaN) (rightNumber : ¬ right.IsNaN) :
    compareValues? left right = some (compare left right) := by
  cases left with
  | text left =>
    cases right with
    | text => rfl
    | number => cases same
  | number left =>
    cases right with
    | text => cases same
    | number right =>
      cases left <;> cases right <;>
        first
        | rfl
        | exact absurd trivial leftNumber
        | exact absurd trivial rightNumber

/-- The comparison of rows is the lexicographic order of their values under the keys,
seen in the direction. -/
theorem compareByAll_eq {left right : Row} (leftFits : left.Fits plan)
    (rightFits : right.Fits plan) (direction : Direction) {keys : List Column}
    (resolved : ∀ key ∈ keys, plan.Resolves key) (leftNumbers : left.NumbersOnly keys)
    (rightNumbers : right.NumbersOnly keys) :
    compareByAll direction keys left right =
      .ok (direction.apply (compare (left.keyValues keys) (right.keyValues keys))) := by
  induction keys with
  | nil => cases direction <;> rfl
  | cons key rest inductionHypothesis =>
    obtain ⟨first, others⟩ := List.forall_mem_cons.mp resolved
    obtain ⟨leftFirst, leftRest⟩ := List.forall_mem_cons.mp leftNumbers
    obtain ⟨rightFirst, rightRest⟩ := List.forall_mem_cons.mp rightNumbers
    obtain ⟨leftValue, leftRead, leftType⟩ := leftFits key first
    obtain ⟨rightValue, rightRead, rightType⟩ := rightFits key first
    have compared : compareBy key left right = .ok (compare leftValue rightValue) := by
      simp [compareBy, leftRead, rightRead, compareValues?_eq (leftType.trans rightType.symm)
        (leftFirst leftValue leftRead) (rightFirst rightValue rightRead)]
    have head : compare (left.value key).toOption (right.value key).toOption =
        compare leftValue rightValue := by
      rw [leftRead, rightRead]
      rfl
    rw [compareByAll, compared, Checks.ok_bind, keyValues, keyValues, List.map_cons, List.map_cons,
      List.compare_cons_cons, head, Direction.apply_then,
      inductionHypothesis others leftRest rightRest]
    cases direction.apply (compare leftValue rightValue) <;> rfl

/-- Whether a row may stand before another, by their values under the keys. -/
def standsBefore (order : SortOrder) (left right : Row) : Bool :=
  (order.direction.apply (compare (left.keyValues order.keys) (right.keyValues order.keys))).isLE

/-- Standing before is transitive. -/
theorem standsBefore_trans (order : SortOrder) (first second third : Row)
    (firstBefore : standsBefore order first second = true)
    (secondBefore : standsBefore order second third = true) :
    standsBefore order first third = true :=
  order.direction.isLE_trans firstBefore secondBefore

/-- Of two rows one may stand before the other. -/
theorem standsBefore_total (order : SortOrder) (first second : Row) :
    (standsBefore order first second || standsBefore order second first) = true :=
  order.direction.isLE_total _ _

/-- Rows that tie may stand either way. -/
theorem standsBefore_of_tie {order : SortOrder} {left right : Row}
    (tie : order.direction.apply
      (compare (left.keyValues order.keys) (right.keyValues order.keys)) = .eq) :
    standsBefore order right left = true := by
  have swapped : compare (right.keyValues order.keys) (left.keyValues order.keys) =
      (compare (left.keyValues order.keys) (right.keyValues order.keys)).swap :=
    Std.OrientedCmp.eq_swap
  rw [standsBefore, swapped, Direction.apply_swap, tie]
  rfl

/-- On rows of numbers and texts the comparison is the order of their values under the keys. -/
theorem precedes_eq {order : SortOrder} {rows : List Row} (fits : ∀ row ∈ rows, row.Fits plan)
    (resolved : ∀ key ∈ order.keys, plan.Resolves key)
    (numbers : ∀ row ∈ rows, row.NumbersOnly order.keys) :
    ∀ left ∈ rows, ∀ right ∈ rows, precedes order left right = standsBefore order left right := by
  intro left inLeft right inRight
  rw [precedes, compareByAll_eq (fits left inLeft) (fits right inRight) order.direction resolved
    (numbers left inLeft) (numbers right inRight), standsBefore]
  cases order.direction.apply (compare (left.keyValues order.keys) (right.keyValues order.keys))
  all_goals rfl

/-- So it agrees with itself there. -/
theorem agreesOn_of_numbers {order : SortOrder} {rows : List Row}
    (fits : ∀ row ∈ rows, row.Fits plan) (resolved : ∀ key ∈ order.keys, plan.Resolves key)
    (numbers : ∀ row ∈ rows, row.NumbersOnly order.keys) :
    StableSort.agreesOn (precedes order) rows = true := by
  have stands := precedes_eq fits resolved numbers
  rw [StableSort.agreesOn_iff]
  intro first inFirst second inSecond third inThird
  rw [stands first inFirst second inSecond, stands second inSecond third inThird,
    stands first inFirst third inThird]
  exact standsBefore_trans order first second third

/-- Rows of a plan are sorted, unless the sort does not end; whether they have their places
need not be known. -/
theorem sort_eq_elim {order : SortOrder} {rows : List Row} (fits : ∀ row ∈ rows, row.Fits plan)
    (resolved : ∀ key ∈ order.keys, plan.Resolves key) :
    sort order rows = (StableSort.sort? false (precedes order) rows).elim
      (.error .contradictoryOrder) .ok := by
  have comparable : ∀ left ∈ rows, ∀ right ∈ rows, ∃ ordering,
      compareByAll order.direction order.keys left right = .ok ordering :=
    fun left inLeft right inRight =>
      compareByAll_exists (fits left inLeft) (fits right inRight) order.direction resolved
  rw [sort_eq_sort? comparable, StableSort.sort?_known]
  intro placed
  refine agreesOn_of_numbers fits resolved fun row member => ?_
  exact hasPlaces_iff.mp (List.all_eq_true.mp placed row member)

/-- Rows of numbers and texts are sorted by the order of their values under the keys. -/
theorem sort_eq {order : SortOrder} {rows : List Row} (fits : ∀ row ∈ rows, row.Fits plan)
    (resolved : ∀ key ∈ order.keys, plan.Resolves key)
    (numbers : ∀ row ∈ rows, row.NumbersOnly order.keys) :
    sort order rows = .ok (rows.mergeSort (standsBefore order)) := by
  have same := List.map_mergeSort (f := id) (precedes_eq fits resolved numbers)
  rw [List.map_id, List.map_id] at same
  rw [sort_eq_elim fits resolved,
    StableSort.sort?_of_agreesOn (agreesOn_of_numbers fits resolved numbers), same]
  rfl

end Row

/-- Sorting takes every item once. Each earlier item may stand before each later one,
and where either may stand before the other, they stand as they did. -/
theorem mergeSort_positions {α : Type} {le : α → α → Bool}
    (trans : ∀ first second third, le first second = true → le second third = true →
      le first third = true)
    (total : ∀ first second, (le first second || le second first) = true) (items : List α) :
    ∃ positions : List Nat, positions.Perm (List.range items.length) ∧
      List.Forall₂ (fun position item => items[position]? = some item) positions
        (items.mergeSort le) ∧
      positions.Pairwise fun earlier later => ∀ left right, items[earlier]? = some left →
        items[later]? = some right →
          le left right = true ∧ (le right left = true → earlier < later) := by
  have taken : (items.zipIdx.mergeSort (List.zipIdxLE le)).Perm items.zipIdx :=
    List.mergeSort_perm items.zipIdx _
  have found : ∀ numbered ∈ items.zipIdx.mergeSort (List.zipIdxLE le),
      items[numbered.2]? = some numbered.1 := fun numbered member =>
    List.mem_zipIdx_iff_getElem?.mp (taken.mem_iff.mp member)
  have once : ((items.zipIdx.mergeSort (List.zipIdxLE le)).map Prod.snd).Perm
      (List.range items.length) := by
    rw [List.range_eq_range', ← List.zipIdx_map_snd 0 items]
    exact taken.map Prod.snd
  refine ⟨_, once, ?_, ?_⟩
  · rw [← List.mergeSort_zipIdx (l := items), List.forall₂_map_left_iff, List.forall₂_map_right_iff,
      List.forall₂_same]
    exact found
  · have distinct := once.nodup_iff.mpr List.nodup_range
    rw [List.Nodup, List.pairwise_map] at distinct
    have sorted := List.pairwise_mergeSort (List.zipIdxLE_trans trans) (List.zipIdxLE_total total)
      items.zipIdx
    rw [List.pairwise_map]
    refine (sorted.and distinct).imp_of_mem ?_
    intro earlier later inEarlier inLater ⟨ordered, different⟩ left right leftFound rightFound
    obtain rfl := Option.some.inj ((found earlier inEarlier).symm.trans leftFound)
    obtain rfl := Option.some.inj ((found later inLater).symm.trans rightFound)
    unfold List.zipIdxLE at ordered
    split at ordered
    · rename_i before
      refine ⟨before, fun back => ?_⟩
      rw [if_pos back, decide_eq_true_iff] at ordered
      exact Nat.lt_of_le_of_ne ordered different
    · cases ordered

end CampusQuery
