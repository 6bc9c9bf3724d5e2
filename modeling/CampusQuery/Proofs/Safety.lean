import CampusQuery.Proofs.Rows
import CampusQuery.Proofs.StableSorts

/-!
# How a plan is carried out

The rows of a well typed plan compare by every key of its order and show every one of
its columns. So carrying the plan out ends with rows, with the refusal of too many
rows or, where the comparison contradicts itself, in the sort, and nowhere else.
-/

namespace CampusQuery

namespace Row

variable {plan : Plan}

/-- Values of one type compare. -/
theorem compareValues?_exists {left right : Value} (same : left.type = right.type) :
    ∃ ordering, compareValues? left right = some ordering := by
  cases left <;> cases right <;> first | exact ⟨_, rfl⟩ | cases same

/-- Rows of a plan compare by each column that it can name. -/
theorem compareBy_exists {left right : Row} (leftFits : left.Fits plan)
    (rightFits : right.Fits plan) {column : Column} (resolved : plan.Resolves column) :
    ∃ ordering, compareBy column left right = .ok ordering := by
  obtain ⟨leftValue, leftRead, leftType⟩ := leftFits column resolved
  obtain ⟨rightValue, rightRead, rightType⟩ := rightFits column resolved
  obtain ⟨ordering, compared⟩ := compareValues?_exists (leftType.trans rightType.symm)
  exact ⟨ordering, by simp [compareBy, leftRead, rightRead, compared]⟩

/-- Rows of a plan compare by any list of columns that it can name. -/
theorem compareByAll_exists {left right : Row} (leftFits : left.Fits plan)
    (rightFits : right.Fits plan) (direction : Direction) {keys : List Column}
    (resolved : ∀ key ∈ keys, plan.Resolves key) :
    ∃ ordering, compareByAll direction keys left right = .ok ordering := by
  induction keys with
  | nil => exact ⟨.eq, rfl⟩
  | cons key rest inductionHypothesis =>
    obtain ⟨first, others⟩ := List.forall_mem_cons.mp resolved
    obtain ⟨ordering, compared⟩ := compareBy_exists leftFits rightFits first
    obtain ⟨next, restCompared⟩ := inductionHypothesis others
    rw [compareByAll, compared, Checks.ok_bind]
    cases direction.apply ordering
    · exact ⟨.lt, rfl⟩
    · exact ⟨next, restCompared⟩
    · exact ⟨.gt, rfl⟩

/-- Where all rows compare, no defect shows between neighbours. -/
theorem defectInOrder_eq_none {order : SortOrder} {rows : List Row}
    (comparable : ∀ left ∈ rows, ∀ right ∈ rows,
      ∃ ordering, compareByAll order.direction order.keys left right = .ok ordering) :
    defectInOrder order rows = none := by
  induction rows with
  | nil => rfl
  | cons left rest inductionHypothesis =>
    cases rest with
    | nil => rfl
    | cons right others =>
      obtain ⟨ordering, compared⟩ := comparable left List.mem_cons_self right
        (List.mem_cons_of_mem _ List.mem_cons_self)
      rw [defectInOrder, compared]
      exact inductionHypothesis fun before inRest after alsoInRest =>
        comparable before (List.mem_cons_of_mem _ inRest) after (List.mem_cons_of_mem _ alsoInRest)

/-- Rows that all compare are sorted, unless the sort does not end. -/
theorem sort_eq_sort? {order : SortOrder} {rows : List Row}
    (comparable : ∀ left ∈ rows, ∀ right ∈ rows,
      ∃ ordering, compareByAll order.direction order.keys left right = .ok ordering) :
    sort order rows = (StableSort.sort? (rows.all (hasPlaces order.keys)) (precedes order)
      rows).elim (.error .contradictoryOrder) .ok := by
  have none : defectInOrder order (rows.mergeSort (precedes order)) = none :=
    defectInOrder_eq_none fun left inLeft right inRight =>
      comparable left (List.mem_mergeSort.mp inLeft) right (List.mem_mergeSort.mp inRight)
  rw [sort, none]
  dsimp only
  cases StableSort.sort? (rows.all (hasPlaces order.keys)) (precedes order) rows <;> rfl

/-- A row of a plan shows any columns that the plan can name. -/
theorem project_exists {row : Row} (fits : row.Fits plan) {columns : List Column}
    (resolved : ∀ column ∈ columns, plan.Resolves column) :
    ∃ shown, project columns row = .ok shown := by
  have each : ∀ column ∈ columns, ∃ pair,
      (do return (column.label, (← row.value column).toJson) : Except Defect (String × Json)) =
        .ok pair := by
    intro column member
    obtain ⟨value, read, -⟩ := fits column (resolved column member)
    exact ⟨(column.label, value.toJson), by simp [read]⟩
  obtain ⟨pairs, done⟩ := Checks.mapM_exists each
  exact ⟨.ofList pairs, by rw [project, done, Checks.ok_bind, Checks.pure_eq_ok]⟩

end Row

namespace Plan

variable {plan : Plan} {limit : Nat} {rows : List Row}

/-- A plan with more rows than the limit is refused, and the refusal counts all of them. -/
theorem execute_eq_tooLarge (done : plan.rows = .ok rows) (exceeded : limit < rows.length) :
    plan.execute limit = .error (.error (.tooLarge rows.length limit)) := by
  rw [execute, done]
  simp only [Except.mapError, Checks.ok_bind, if_pos exceeded, Checks.throw_bind]
  rfl

/-- Otherwise its rows are arranged, and each is shown. -/
theorem execute_eq_ok (done : plan.rows = .ok rows) (within : rows.length ≤ limit)
    {arranged : List Row} (inOrder : plan.arrange rows = .ok arranged) {shown : List ResultRow}
    (projected : arranged.mapM (Row.project plan.options.columns) = .ok shown) :
    plan.execute limit = .ok shown := by
  rw [execute, done]
  simp only [Except.mapError, Checks.ok_bind, if_neg (Nat.not_lt.mpr within)]
  rw [inOrder, Except.bind, projected]

/-- Where a plan's rows cannot be arranged, that is how carrying it out ends. -/
theorem execute_eq_defect (done : plan.rows = .ok rows) (within : rows.length ≤ limit)
    {cause : Defect} (stopped : plan.arrange rows = .error cause) :
    plan.execute limit = .error (.defect cause) := by
  rw [execute, done]
  simp only [Except.mapError, Checks.ok_bind, if_neg (Nat.not_lt.mpr within)]
  rw [stopped, Except.bind]

/-- Every stage of the plan goes through, the sort apart: it has rows, any two of them compare
by the keys of its order, each shows the columns, and what arranging them comes to is all of
them or the end of the sort. -/
structure Runs (plan : Plan) (rows : List Row) : Prop where
  evaluated : plan.rows = .ok rows
  compared : ∀ order ∈ plan.options.order, ∀ left ∈ rows, ∀ right ∈ rows,
    ∃ ordering, Row.compareByAll order.direction order.keys left right = .ok ordering
  arranged : (∃ arranged, plan.arrange rows = .ok arranged ∧ arranged.Perm rows) ∨
    plan.arrange rows = .error .contradictoryOrder
  shown : ∀ row ∈ rows, ∃ shown, row.project plan.options.columns = .ok shown

/-- The stages of a well typed plan go through. -/
theorem WellTyped.runs (typed : plan.WellTyped) : ∃ rows, plan.Runs rows := by
  obtain ⟨rows, done, yielded⟩ := typed.rows_exist
  have compared : ∀ order ∈ plan.options.order, ∀ left ∈ rows, ∀ right ∈ rows,
      ∃ ordering, Row.compareByAll order.direction order.keys left right = .ok ordering := by
    intro order ordered left inLeft right inRight
    have leftFits := yielded.fits left inLeft
    have rightFits := yielded.fits right inRight
    exact Row.compareByAll_exists leftFits rightFits order.direction (typed.order order ordered)
  have shown : ∀ row ∈ rows, ∃ shown, row.project plan.options.columns = .ok shown := by
    intro row member
    exact Row.project_exists (yielded.fits row member) typed.columns
  refine ⟨rows, done, compared, ?_, shown⟩
  unfold arrange
  cases ordered : plan.options.order with
  | none => exact .inl ⟨rows, rfl, .refl rows⟩
  | some order =>
    dsimp only
    rw [Row.sort_eq_sort? (compared order ordered)]
    cases ends : StableSort.sort? (rows.all (Row.hasPlaces order.keys)) (Row.precedes order)
      rows with
    | none => exact .inr rfl
    | some sorted => exact .inl ⟨sorted, rfl, StableSort.perm_of_sort? ends⟩

end Plan

end CampusQuery
