import CampusQuery.Proofs.Answers

/-!
# Validity does not depend on the data

Making a plan asks the lookup for one dataset and then looks only at the identifier and the
kind of what is found. So two lookups whose datasets differ in their records alone, which
may even be missing, refuse a query for the same cause or make plans that agree in all but
their records. Carrying out a plan that was made fails for the number of its rows, or where
these cannot be sorted, and for nothing else. A cause is therefore known before any record is
read, and neither the records nor the limit can hide it or bring in another.
-/

namespace CampusQuery

/-- Under every identifier both lookups find nothing, or datasets that differ in their
records at most. -/
def Lookup.Alike (left right : Lookup) : Prop :=
  ∀ id, Option.Rel (fun one other => one.id = other.id ∧ one.kind = other.kind)
    (left id) (right id)

namespace Plan

/-- The plans differ in the records of their datasets at most. -/
structure Agrees (one other : Plan) : Prop where
  id : one.dataset.id = other.dataset.id
  kind : one.dataset.kind = other.dataset.kind
  filter : one.filter = other.filter
  transformation : one.transformation = other.transformation
  options : one.options = other.options

/-- Both queries are refused for one cause, or both are made into plans that agree. -/
inductive MadeAlike : Except Fault Plan → Except Fault Plan → Prop where
  | refused (fault : Fault) : MadeAlike (.error fault) (.error fault)
  | made {one other : Plan} (agree : one.Agrees other) : MadeAlike (.ok one) (.ok other)

/-- A first step in common either refuses both or leaves the rest to be compared. -/
theorem MadeAlike.bind {α : Type} (first : Except Fault α) {left right : α → Except Fault Plan}
    (rest : ∀ value, MadeAlike (left value) (right value)) :
    MadeAlike (first >>= left) (first >>= right) := by
  cases first with
  | error fault => exact .refused fault
  | ok value => exact rest value

/-- Of two outcomes that are alike, one is a refusal exactly when the other is. -/
theorem MadeAlike.error_iff {left right : Except Fault Plan} (alike : MadeAlike left right)
    (fault : Fault) : left = .error fault ↔ right = .error fault := by
  cases alike with
  | refused common => rfl
  | made agree => exact iff_of_false nofun nofun

/-- The clauses that depend on the dataset depend on its identifier and its kind alone. -/
theorem ofClauses_alike {one other : Dataset} (sameId : one.id = other.id)
    (sameKind : one.kind = other.kind) (options : Options) (condition : Json)
    (transformations : Option Json) :
    MadeAlike (ofClauses one options condition transformations)
      (ofClauses other options condition transformations) := by
  unfold ofClauses
  rw [sameId, sameKind]
  refine .bind _ fun _ => .bind _ fun filter => ?_
  cases transformations with
  | none => exact .made ⟨sameId, sameKind, rfl, rfl, rfl⟩
  | some raw =>
    refine .bind _ fun transformation => .bind _ fun _ => ?_
    exact .made ⟨sameId, sameKind, rfl, rfl, rfl⟩

/-- Lookups that are alike make alike plans: up to the dataset they are not asked, and of
the dataset no record is read. -/
theorem ofQuery_alike {left right : Lookup} (alike : left.Alike right) (raw : Json) :
    MadeAlike (ofQuery left raw) (ofQuery right raw) := by
  cases raw with
  | object members =>
    dsimp only [ofQuery]
    cases members.find? (fun member => !clauses.contains member.1) with
    | some member => exact .refused (.unexpectedClause member.1)
    | none =>
      cases members.lookup "WHERE" with
      | none => exact .refused .whereMissing
      | some condition =>
        cases members.lookup "OPTIONS" with
        | none => exact .refused .optionsMissing
        | some selection =>
          refine .bind _ fun rules => .bind _ fun options => .bind _ fun id => ?_
          have found := alike id
          generalize left id = one, right id = other at found
          cases found with
          | none => exact .refused (.unknownDataset id)
          | some same => exact ofClauses_alike same.1 same.2 options condition _
  | _ => exact .refused .queryNotObject

end Plan

/-- A query is refused as malformed exactly when no plan is made of it, and for the cause
for which none is made. -/
theorem answer_eq_refused_iff {lookup : Lookup} {limit : Nat} {raw : Json} {fault : Fault} :
    answer lookup limit raw = .error (.error (.refused fault)) ↔
      Plan.ofQuery lookup raw = .error fault := by
  cases made : Plan.ofQuery lookup raw with
  | error cause => simp [answer, made]
  | ok plan =>
    rw [answer_eq made]
    cases Query.orderedRows plan.dataset raw <;> split <;> simp

/-- Lookups that are alike refuse a query for the same cause or make plans of it that agree.
A plan that was made fails only for having more rows than the limit, and apart from that only
where its table cannot be sorted, which is not an error of the query. So whether a query is
malformed, and for which cause, is the same for all records and all limits, and a malformed
query has no other answer. -/
theorem answer_validity {left right : Lookup} (alike : left.Alike right) (raw : Json) :
    Plan.MadeAlike (Plan.ofQuery left raw) (Plan.ofQuery right raw) ∧
    (∀ lookup plan, Plan.ofQuery lookup raw = .ok plan → ∀ limit failure,
      plan.execute limit = .error failure →
        (∃ rows, failure = .error (.tooLarge rows limit) ∧ limit < rows) ∨
        Query.Unsortable plan.dataset raw ∧ failure = .defect .contradictoryOrder) ∧
    (∀ limit other fault, answer left limit raw = .error (.error (.refused fault)) ↔
      answer right other raw = .error (.error (.refused fault))) ∧
    ∀ fault, Plan.ofQuery left raw = .error fault → ∀ limit,
      answer left limit raw = .error (.error (.refused fault)) ∧
        answer right limit raw = .error (.error (.refused fault)) := by
  have madeAlike := Plan.ofQuery_alike alike raw
  refine ⟨madeAlike, ?_, ?_, ?_⟩
  · intro lookup plan accepted limit failure failed
    have answered : answer lookup limit raw = .error failure := by
      rw [answer, accepted]
      exact failed
    rcases answer_outcome accepted limit with
      ⟨rows, given⟩ | ⟨exceeded, refused⟩ | ⟨unsortable, stopped⟩
    · rw [answered] at given
      cases given
    · rw [answered] at refused
      exact .inl ⟨_, Except.error.inj refused, exceeded⟩
    · rw [answered] at stopped
      exact .inr ⟨unsortable, Except.error.inj stopped⟩
  · intro limit other fault
    rw [answer_eq_refused_iff, answer_eq_refused_iff]
    exact madeAlike.error_iff fault
  · intro fault refused limit
    have refusedToo := (madeAlike.error_iff fault).mp refused
    exact ⟨answer_eq_refused_iff.mpr refused, answer_eq_refused_iff.mpr refusedToo⟩

/-- A dataset and the same dataset without its records: the ranking of departments is made
into plans that agree, and a query for a column that no section has is refused by both for
the same cause. -/
theorem ranked_validity :
    let emptied : Dataset := ⟨"courses", .sections []⟩
    let misspelt := Json.object [
      ("OPTIONS", .object [("COLUMNS", .array [.text "courses_seats"])]), ("WHERE", .object [])]
    Lookup.Alike (.ofList [Sample.dataset]) (.ofList [emptied]) ∧
      (∃ full empty, Plan.ofQuery (.ofList [Sample.dataset]) Sample.ranked = .ok full ∧
        Plan.ofQuery (.ofList [emptied]) Sample.ranked = .ok empty ∧ full.Agrees empty) ∧
      answer (.ofList [emptied]) 0 misspelt =
        .error (.error (.refused (.foreignKey ⟨"courses", .seats⟩ .sections))) := by
  intro emptied misspelt
  have alike : Lookup.Alike (.ofList [Sample.dataset]) (.ofList [emptied]) := by
    intro id
    by_cases same : "courses" = id
    · subst same
      exact .some ⟨rfl, rfl⟩
    · simp [Lookup.ofList, Sample.dataset, emptied, same]
  obtain ⟨full, accepted, -⟩ : ∃ plan,
      Plan.ofQuery (.ofList [Sample.dataset]) Sample.ranked = .ok plan ∧
        plan.dataset = Sample.dataset :=
    Checks.exists_ok_of_seen (by decide +kernel)
  have ranked := (answer_validity alike Sample.ranked).1
  rw [accepted] at ranked
  refine ⟨alike, ?_, ?_⟩
  · generalize Plan.ofQuery (.ofList [emptied]) Sample.ranked = made at ranked
    cases ranked with
    | made agree => exact ⟨full, _, accepted, rfl, agree⟩
  · refine ((answer_validity alike misspelt).2.2.2 _ ?_ 0).2
    rfl

end CampusQuery
