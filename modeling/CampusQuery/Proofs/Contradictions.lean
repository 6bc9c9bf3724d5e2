import CampusQuery.Proofs.Answers

/-!
# What stops an answer

A plan that is made from a query is well typed, so that every stage of it goes through: its
condition decides on each record, its rules give results for each group, any two of its rows
compare by the keys of its order, and each row shows its columns. The sort alone may stop all
the same, for the comparison need not agree with itself where an average is not a number. So
a query is answered with rows or refused with an error, unless its table cannot be sorted.
-/

namespace CampusQuery

/-- Every query is answered with rows or refused with an error, or it is accepted and its table
cannot be sorted: there are more rows than are sorted by insertion, something under the sort
keys is not a number, and the comparison contradicts itself. No other defect is ever met, for a
plan that is made is well typed, and then all of its stages go through. -/
theorem answer_or_unsortable (lookup : Lookup) (limit : Nat) (raw : Json) :
    ((∃ rows, answer lookup limit raw = .ok rows) ∨
      (∃ cause, answer lookup limit raw = .error (.error cause)) ∨
      ∃ plan, Plan.ofQuery lookup raw = .ok plan ∧ Query.Unsortable plan.dataset raw ∧
        answer lookup limit raw = .error (.defect .contradictoryOrder)) ∧
    ∀ plan, Plan.ofQuery lookup raw = .ok plan → plan.WellTyped ∧ ∃ rows, plan.Runs rows := by
  constructor
  · cases made : Plan.ofQuery lookup raw with
    | error fault => exact .inr (.inl ⟨.refused fault, by rw [answer, made]⟩)
    | ok plan =>
      rcases answer_outcome made limit with answered | ⟨-, refused⟩ | ⟨unsortable, stopped⟩
      · exact .inl answered
      · exact .inr (.inl ⟨_, refused⟩)
      · exact .inr (.inr ⟨plan, rfl, unsortable, stopped⟩)
  · intro plan accepted
    have typed := Plan.wellTyped_of_ofQuery accepted
    exact ⟨typed, typed.runs⟩

/-- The query that ranks departments is made into a plan whose stages go through, and it is
answered. -/
theorem ranked_runs : ∃ plan rows shown,
    Plan.ofQuery (.ofList [Sample.dataset]) Sample.ranked = .ok plan ∧ plan.WellTyped ∧
      plan.Runs rows ∧ answer (.ofList [Sample.dataset]) 3 Sample.ranked = .ok shown := by
  obtain ⟨plan, accepted, bound⟩ : ∃ plan,
      Plan.ofQuery (.ofList [Sample.dataset]) Sample.ranked = .ok plan ∧
        plan.dataset = Sample.dataset :=
    Checks.exists_ok_of_seen (by decide +kernel)
  obtain ⟨outcome, stages⟩ := answer_or_unsortable (.ofList [Sample.dataset]) 3 Sample.ranked
  obtain ⟨typed, rows, runs⟩ := stages plan accepted
  have within : Query.size plan.dataset Sample.ranked ≤ 3 := by
    rw [bound]
    decide +kernel
  have sortable : ¬Query.Unsortable plan.dataset Sample.ranked := by
    rw [bound]
    decide +kernel
  rcases outcome with ⟨shown, answered⟩ | ⟨cause, refused⟩ | ⟨other, otherAccepted, unsortable, -⟩
  · exact ⟨plan, rows, shown, accepted, typed, runs, answered⟩
  · obtain ⟨shown, answered, -⟩ := (answer_gives accepted within).exists_rows sortable
    rw [refused] at answered
    cases answered
  · rw [accepted] at otherAccepted
    obtain rfl := Except.ok.inj otherAccepted
    exact absurd unsortable sortable

/-- Sections in which an average that is not a number stands between a six and a one. -/
def Sample.unplaced : Dataset :=
  ⟨"courses", .sections (
    [6, 5, 5, 5, 5, 5].map (course "cpsc") ++
      { course "cpsc" 0 with avg := .undefined } ::
        ([1, 1, 1] ++ List.replicate 11 3).map (course "cpsc"))⟩

/-- The averages in order. -/
def Sample.averages : Json :=
  .object [
    ("OPTIONS", .object [
      ("COLUMNS", .array [.text "courses_avg"]), ("ORDER", .text "courses_avg")]),
    ("WHERE", .object [])]

/-- These averages are not ordered: the six may stand before what is not a number and that
before the one, but not the six before the one. -/
theorem averages_contradict : Sample.unplaced.records.size = 21 ∧
    answer (.ofList [Sample.unplaced]) 5000 Sample.averages =
      .error (.defect .contradictoryOrder) := by
  obtain ⟨plan, accepted, bound⟩ : ∃ plan,
      Plan.ofQuery (.ofList [Sample.unplaced]) Sample.averages = .ok plan ∧
        plan.dataset = Sample.unplaced :=
    Checks.exists_ok_of_seen (by decide +kernel)
  have within : Query.size plan.dataset Sample.averages ≤ 5000 := by
    rw [bound]
    decide +kernel
  have unsortable : Query.Unsortable plan.dataset Sample.averages := by
    rw [bound]
    decide +kernel
  exact ⟨by decide +kernel, answer_of_unsortable accepted within unsortable⟩

end CampusQuery
