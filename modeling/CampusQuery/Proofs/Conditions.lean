import CampusQuery.Proofs.Filters
import CampusQuery.Proofs.Surface

/-!
# What a filter decides

A filter is fit for a dataset when each of its keys names a field of the dataset and
holds what the comparison with it needs. Every filter that is read is fit, and a fit
filter decides every record of the dataset without a defect. Stopping early changes
nothing: what is decided is the truth that all the parts have together, and that is the
truth of the condition as it is written.
-/

namespace CampusQuery

namespace Filter

variable {scope : Scope}

/-- Every key names a field of the dataset, a numeric one under a comparison of numbers
and a textual one under a match. -/
inductive WellTyped (scope : Scope) : Filter → Prop where
  | all : WellTyped scope .all
  | and {children : List Filter} (each : ∀ child ∈ children, WellTyped scope child) :
      WellTyped scope (.and children)
  | or {children : List Filter} (each : ∀ child ∈ children, WellTyped scope child) :
      WellTyped scope (.or children)
  | not {child : Filter} (inner : WellTyped scope child) : WellTyped scope (.not child)
  | relate {relation : Relation} {key : Key} {literal : Binary64} (owned : scope.Owns key)
      (numeric : key.isNumeric = true) : WellTyped scope (.relate relation key literal)
  | like {key : Key} {pattern : Pattern} (owned : scope.Owns key)
      (textual : key.isTextual = true) : WellTyped scope (.like key pattern)

/-- Every filter that is read is fit for the dataset. -/
theorem wellTyped_of_read {raw : Json} {filter : Filter} (accepted : read scope raw = .ok filter) :
    filter.WellTyped scope := by
  refine read_induction (fun _ filter => filter.WellTyped scope) ?_ accepted
  intro raw filter step
  have fromEach {items : List Json} {children : List Filter}
      (each : List.Forall₂ (fun part child => read scope part = .ok child ∧ child.WellTyped scope)
        items children) : ∀ child ∈ children, child.WellTyped scope := by
    intro child member
    obtain ⟨part, -, -, typed⟩ := Checks.exists_of_mem_right each member
    exact typed
  cases step with
  | all => exact .all
  | and _ each => exact .and (fromEach each)
  | or _ each => exact .or (fromEach each)
  | not inner => exact .not inner.2
  | relate _ owned numeric => exact .relate owned numeric
  | like _ owned textual _ => exact .like owned textual

mutual

/-- What a filter decides when every part is looked at. -/
def verdict (record : Record) : Filter → Bool
  | .all => true
  | .and children => (verdicts record children).all id
  | .or children => (verdicts record children).any id
  | .not child => !verdict record child
  | .relate relation key literal =>
    match record.value? key.field with
    | some (.number number) => relation.holds number literal
    | _ => false
  | .like key pattern =>
    match record.value? key.field with
    | some (.text text) => pattern.accepts text
    | _ => false
termination_by structural filter => filter

/-- What each filter decides, in turn. -/
def verdicts (record : Record) : List Filter → List Bool
  | [] => []
  | child :: rest => verdict record child :: verdicts record rest
termination_by structural children => children

end

/-- Verdicts are given one by one. -/
theorem verdicts_eq_map (record : Record) (children : List Filter) :
    verdicts record children = children.map (verdict record) := by
  induction children with
  | nil => rfl
  | cons child rest inductionHypothesis => rw [verdicts, inductionHypothesis, List.map_cons]

/-- A conjunction whose children decide stops at the first that fails, and would have
decided the same had it gone on. -/
theorem passesEach_eq_ok {record : Record} {children : List Filter}
    (each : ∀ child ∈ children, passes record child = .ok (verdict record child)) :
    passesEach record children = .ok ((verdicts record children).all id) := by
  induction children with
  | nil => rfl
  | cons child rest inductionHypothesis =>
    obtain ⟨first, others⟩ := List.forall_mem_cons.mp each
    rw [passesEach, first, Checks.ok_bind, inductionHypothesis others]
    cases decided : verdict record child <;> simp [verdicts, decided, pure, Except.pure]

/-- A disjunction whose children decide stops at the first that holds, and would have
decided the same had it gone on. -/
theorem passesSome_eq_ok {record : Record} {children : List Filter}
    (each : ∀ child ∈ children, passes record child = .ok (verdict record child)) :
    passesSome record children = .ok ((verdicts record children).any id) := by
  induction children with
  | nil => rfl
  | cons child rest inductionHypothesis =>
    obtain ⟨first, others⟩ := List.forall_mem_cons.mp each
    rw [passesSome, first, Checks.ok_bind, inductionHypothesis others]
    cases decided : verdict record child <;> simp [verdicts, decided, pure, Except.pure]

/-- A fit filter decides every record of the dataset's kind, without a defect. -/
theorem WellTyped.passes_eq_verdict {filter : Filter} (typed : filter.WellTyped scope)
    {record : Record} (same : record.kind = scope.kind) :
    filter.passes record = .ok (filter.verdict record) := by
  induction typed with
  | all => rfl
  | and _ inductionHypothesis => exact passesEach_eq_ok inductionHypothesis
  | or _ inductionHypothesis => exact passesSome_eq_ok inductionHypothesis
  | not _ inductionHypothesis =>
    rw [passes, inductionHypothesis]
    rfl
  | relate owned numeric =>
    obtain ⟨number, held, read⟩ := Record.number_exists (owned.kind.trans same.symm) numeric
    rw [passes, read, verdict, held]
    rfl
  | like owned textual =>
    obtain ⟨text, held, read⟩ := Record.text_exists (owned.kind.trans same.symm) textual
    rw [passes, read, verdict, held]
    rfl

/-- A fit filter selects exactly the records for which it holds, in their order. -/
theorem WellTyped.select_eq_filter {filter : Filter} (typed : filter.WellTyped scope)
    {records : List Record} (same : ∀ record ∈ records, record.kind = scope.kind) :
    filter.select records = .ok (records.filter filter.verdict) := by
  induction records with
  | nil => rfl
  | cons record rest inductionHypothesis =>
    obtain ⟨first, others⟩ := List.forall_mem_cons.mp same
    rw [select, typed.passes_eq_verdict first, inductionHypothesis others, List.filter_cons]
    rfl

/-- What a filter decides is the truth of the condition from which it is read. -/
theorem verdict_eq_holds {raw : Json} {filter : Filter} (accepted : read scope raw = .ok filter)
    (record : Record) : filter.verdict record = Query.holds scope.dataset record raw := by
  refine read_induction
    (fun raw filter => filter.verdict record = Query.holds scope.dataset record raw) ?_ accepted
  intro raw filter step
  have inEach {items : List Json} {children : List Filter}
      (each : List.Forall₂ (fun part child => read scope part = .ok child ∧
        child.verdict record = Query.holds scope.dataset record part) items children) :
      verdicts record children = Query.holdsEach scope.dataset record items := by
    rw [verdicts_eq_map, Query.holdsEach_eq_map]
    exact (Checks.map_eq_map_of_forall₂ each fun _ _ step => step.2.symm).symm
  cases step with
  | all => rfl
  | and _ each => rw [verdict, inEach each, Query.holds]
  | or _ each => rw [verdict, inEach each, Query.holds]
  | not inner => rw [verdict, inner.2, Query.holds]
  | @relate relation key numeral _ owned _ =>
    have held := Query.cell?_display record key
    rw [owned.dataset] at held
    rcases read : record.value? key.field with _ | number | text <;> cases relation <;>
      simp only [verdict, Operator.label, Query.holds, Query.compares, held, read, Relation.holds,
        Relation.ordering]
  | @like key text pattern _ owned _ patternRead =>
    have held := Query.cell?_display record key
    rw [owned.dataset] at held
    rw [verdict, Query.holds, Query.fillsPattern, held]
    cases record.value? key.field with
    | none => rfl
    | some value =>
      cases value with
      | number => rfl
      | text => exact Pattern.accepts_of_read patternRead

end Filter

end CampusQuery
