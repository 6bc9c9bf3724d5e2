import CampusQuery.Proofs.Conditions

/-!
# The truth of a condition

A condition that is accepted has a truth for every record of the scope's kind, given by
recursion on the JSON value alone, and the filter read from it decides that truth. To
stop early is no more than economy. Looking at every part, those behind the decisive one
included, meets no defect and comes to the same decision; so no defect waits in a part
that is passed over. What a selection keeps is then settled record by record.
-/

namespace CampusQuery

namespace Filter

mutual

/-- Whether a record passes, every part being looked at: a defect anywhere would show. -/
def examine (record : Record) : Filter → Except Defect Bool
  | .all => .ok true
  | .and children => return (← examineEach record children).all id
  | .or children => return (← examineEach record children).any id
  | .not child => return !(← examine record child)
  | .relate relation key literal => return relation.holds (← record.number key) literal
  | .like key pattern => return pattern.accepts (← record.text key)
termination_by structural filter => filter

/-- What every child decides, in turn. -/
def examineEach (record : Record) : List Filter → Except Defect (List Bool)
  | [] => .ok []
  | child :: rest => return (← examine record child) :: (← examineEach record rest)
termination_by structural children => children

end

variable {scope : Scope}

/-- Children that decide are examined to the end of the list. -/
theorem examineEach_eq_ok {record : Record} {children : List Filter}
    (each : ∀ child ∈ children, examine record child = .ok (verdict record child)) :
    examineEach record children = .ok (verdicts record children) := by
  induction children with
  | nil => rfl
  | cons child rest inductionHypothesis =>
    obtain ⟨first, others⟩ := List.forall_mem_cons.mp each
    rw [examineEach, first, Checks.ok_bind, inductionHypothesis others]
    rfl

/-- A fit filter has no part with a defect for a record of the dataset's kind. -/
theorem WellTyped.examine_eq_verdict {filter : Filter} (typed : filter.WellTyped scope)
    {record : Record} (same : record.kind = scope.kind) :
    filter.examine record = .ok (filter.verdict record) := by
  induction typed with
  | all => rfl
  | and _ inductionHypothesis =>
    rw [examine, examineEach_eq_ok inductionHypothesis]
    rfl
  | or _ inductionHypothesis =>
    rw [examine, examineEach_eq_ok inductionHypothesis]
    rfl
  | not _ inductionHypothesis =>
    rw [examine, inductionHypothesis]
    rfl
  | relate owned numeric =>
    obtain ⟨number, held, read⟩ := Record.number_exists (owned.kind.trans same.symm) numeric
    rw [examine, read, verdict, held]
    rfl
  | like owned textual =>
    obtain ⟨text, held, read⟩ := Record.text_exists (owned.kind.trans same.symm) textual
    rw [examine, read, verdict, held]
    rfl

/-- The filter read from a condition decides, for every record of the scope's kind, the
truth of the condition as it is written, whether it stops early or looks at every part;
and it selects exactly the records for which the condition is true, each once and in
their order. -/
theorem read_decides {raw : Json} {filter : Filter} (accepted : read scope raw = .ok filter) :
    (∀ record : Record, record.kind = scope.kind →
      filter.passes record = .ok (Query.holds scope.dataset record raw) ∧
        filter.examine record = .ok (Query.holds scope.dataset record raw)) ∧
    ∀ records : List Record, (∀ record ∈ records, record.kind = scope.kind) →
      filter.select records =
        .ok (records.filter fun record => Query.holds scope.dataset record raw) := by
  have typed := wellTyped_of_read accepted
  have truth (record : Record) := verdict_eq_holds accepted record
  constructor
  · intro record same
    rw [← truth record]
    exact ⟨typed.passes_eq_verdict same, typed.examine_eq_verdict same⟩
  · intro records same
    have kept := List.filter_congr fun record (_ : record ∈ records) => truth record
    rw [typed.select_eq_filter same, kept]

end Filter

/-- Departments without an `h` in their name, or with an average of exactly 70. -/
def Sample.selective : Json :=
  .object [("OR", .array [
    .object [("NOT", .object [("IS", .object [("courses_dept", .text "*h*")])])],
    .object [("AND", .array [
      .object [],
      .object [("EQ", .object [("courses_avg", .number (.integer 70))])]])]])]

/-- The selective condition is read, and its filter keeps all sections but that of `phil`. -/
theorem Filter.selective_decides : ∃ filter,
    read Sample.dataset.scope Sample.selective = .ok filter ∧
      (∀ record ∈ Sample.dataset.records.toList, filter.passes record =
        .ok (Query.holds Sample.dataset.id record Sample.selective)) ∧
      filter.select Sample.dataset.records.toList = .ok (Sample.dataset.records.toList.take 3) := by
  obtain ⟨filter, accepted, -⟩ : ∃ filter,
      read Sample.dataset.scope Sample.selective = .ok filter ∧ filter.size = 6 :=
    Checks.exists_ok_of_seen (by decide +kernel)
  obtain ⟨decided, selected⟩ := read_decides accepted
  have kept : (Sample.dataset.records.toList.filter fun record =>
      Query.holds Sample.dataset.id record Sample.selective) =
        Sample.dataset.records.toList.take 3 := by
    decide +kernel
  refine ⟨filter, accepted, ?_, ?_⟩
  · intro record member
    exact (decided record (Records.kind_of_mem member)).1
  · rw [← kept]
    exact selected _ fun record => Records.kind_of_mem

end CampusQuery
