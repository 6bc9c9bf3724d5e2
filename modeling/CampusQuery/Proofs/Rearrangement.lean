import Mathlib.Data.List.Perm.Basic
import CampusQuery.Proofs.Language
import CampusQuery.Proofs.Sortable

/-!
# Records in another sequence

Nothing in an answer depends on the sequence of the records but the sequence of its rows,
as long as the rules count values or take the largest or the smallest of them. Which
record stands for a group changes, and so do the order of the groups and the order inside
each; but a tuple is a tuple of some record wherever the record stands, its members are
the same records, and a largest number is the same up to the sign of a zero, which no row
shows. Sums are left out: they are rounded on the way.
-/

namespace CampusQuery

/-- The same dataset with its records in another sequence. -/
structure Dataset.Rearranges (dataset other : Dataset) : Prop where
  id : other.id = dataset.id
  kind : other.kind = dataset.kind
  records : other.records.toList.Perm dataset.records.toList

/-- The sequence may be changed back. -/
theorem Dataset.Rearranges.symm {dataset other : Dataset} (rearranged : dataset.Rearranges other) :
    other.Rearranges dataset where
  id := rearranged.id.symm
  kind := rearranged.kind.symm
  records := rearranged.records.symm

namespace Binary64

/-- The number that is chosen does not depend on the sequence, but for the sign of a zero. -/
theorem foldl_perm {choose : Binary64 → Binary64 → Binary64} {best : Int → Int → Int}
    [RightCommutative best]
    (chooses : ∀ (left right : Binary64) {place : Int}, left.position? = some place →
      (choose left right).position? = some ((right.position?.map (best place)).getD place))
    {left right : List Binary64} (permuted : left.Perm right) {start : Binary64} {place : Int}
    (stands : start.position? = some place) :
    (left.foldl choose start).identity = (right.foldl choose start).identity := by
  have leftPlace := position?_foldl chooses left stands
  have rightPlace := position?_foldl chooses right stands
  rw [(permuted.filterMap position?).foldl_eq] at leftPlace
  exact identity_eq_of_place leftPlace rightPlace

/-- The largest value does not depend on the sequence of the values. -/
theorem maximum_perm {left right : List Binary64} (permuted : left.Perm right) :
    (maximum left).identity = (maximum right).identity := by
  have start : (infinite true).position? = some (-(limit : Int)) := rfl
  exact foldl_perm position?_larger permuted start

/-- The smallest value does not depend on the sequence of the values. -/
theorem minimum_perm {left right : List Binary64} (permuted : left.Perm right) :
    (minimum left).identity = (minimum right).identity := by
  have start : (infinite false).position? = some (limit : Int) := rfl
  exact foldl_perm position?_smaller permuted start

end Binary64

/-- Which values are distinct does not depend on their sequence. -/
theorem eraseDups_perm {α : Type} [BEq α] [LawfulBEq α] [DecidableEq α] {left right : List α}
    (permuted : left.Perm right) : left.eraseDups.Perm right.eraseDups := by
  rw [List.perm_ext_iff_of_nodup (Group.nodup_eraseDups left) (Group.nodup_eraseDups right)]
  intro item
  rw [List.mem_eraseDups, List.mem_eraseDups, permuted.mem_iff]

/-- The largest, the smallest and the count of values do not depend on their sequence. -/
theorem Aggregate.ofValues?_perm {aggregate : Aggregate}
    (orderless : aggregate ∈ [max, min, count]) {left right : List Value}
    (permuted : left.Perm right) :
    (aggregate.ofValues? left).map Binary64.identity =
      (aggregate.ofValues? right).map Binary64.identity := by
  have numbers := Checks.mapM_perm Value.number? permuted
  unfold ofValues?
  cases aggregate with
  | avg => simp at orderless
  | sum => simp at orderless
  | count =>
    have counted := (eraseDups_perm (permuted.map Value.identity)).length_eq
    simp only [needsNumbers, Bool.false_eq_true, if_false, Value.countDistinct, counted]
  | max =>
    simp only [needsNumbers, if_true, Option.map_map]
    rw [Option.map_eq_bind, Option.map_eq_bind]
    exact Checks.bind_eq_bind_of_rel numbers fun _ _ numbersPermuted =>
      congrArg some (Binary64.maximum_perm numbersPermuted)
  | min =>
    simp only [needsNumbers, if_true, Option.map_map]
    rw [Option.map_eq_bind, Option.map_eq_bind]
    exact Checks.bind_eq_bind_of_rel numbers fun _ _ numbersPermuted =>
      congrArg some (Binary64.minimum_perm numbersPermuted)

namespace Query

/-- The rules count values or take the largest or the smallest of them. -/
def Orderless (raw : Json) : Prop := ∀ rule ∈ rules raw, rule.token ∈ ["MAX", "MIN", "COUNT"]

instance (raw : Json) : Decidable (Orderless raw) :=
  inferInstanceAs (Decidable (∀ rule ∈ rules raw, rule.token ∈ ["MAX", "MIN", "COUNT"]))

/-- Such rules add nothing up. -/
theorem Orderless.not_adds {raw : Json} (orderless : Orderless raw) :
    ∀ rule ∈ rules raw, rule.token ∉ ["AVG", "SUM"] := by
  intro rule listed adds
  have token := orderless rule listed
  simp only [List.mem_cons, List.not_mem_nil, or_false] at adds
  rcases adds with average | sum
  · rw [average] at token
    exact absurd token (by decide)
  · rw [sum] at token
    exact absurd token (by decide)

/-- A row sees of its values no more than their identities. -/
theorem rowOf_congr {columns : List String} {cell other : String → Option Value}
    (same : ∀ name, (cell name).map Value.identity = (other name).map Value.identity) :
    rowOf columns cell = rowOf columns other := by
  refine NameMap.eq_of_get? fun name => ?_
  rw [get?_rowOf, get?_rowOf, ← Value.map_toJson_identity, same, Value.map_toJson_identity]

section

variable {dataset other : Dataset} {raw : Json}

/-- A rule that is orderless gives the same for records in another sequence. -/
theorem result?_perm (sameId : other.id = dataset.id) {records others : List Record}
    (permuted : others.Perm records) {rule : DeclaredRule}
    (orderless : rule.token ∈ ["MAX", "MIN", "COUNT"]) :
    (result? other others rule).map Value.identity =
      (result? dataset records rule).map Value.identity := by
  unfold result?
  cases found : Aggregate.ofLabel? rule.token with
  | none => rfl
  | some aggregate =>
    have label := Aggregate.ofLabel?_eq_some_iff.mp found
    have aggregateOrderless : aggregate ∈ [.max, .min, .count] := by
      rw [label] at orderless
      cases aggregate <;> revert orderless <;> decide
    have values := Checks.mapM_perm (fun record => cell? dataset.id record rule.target) permuted
    rw [sameId]
    simp only [Option.bind_eq_bind, Option.bind_some, Option.map_bind]
    refine Checks.bind_eq_bind_of_rel values fun one another valuesPermuted => ?_
    have results := Aggregate.ofValues?_perm aggregateOrderless valuesPermuted
    have numbers := congrArg (Option.map Value.number) results
    change ((aggregate.ofValues? one).bind (some ∘ Value.number)).map Value.identity =
      ((aggregate.ofValues? another).bind (some ∘ Value.number)).map Value.identity
    rw [Option.map_map, Option.map_map] at numbers
    rw [← Option.map_eq_bind, ← Option.map_eq_bind, Option.map_map, Option.map_map]
    exact numbers

variable (rearranged : dataset.Rearranges other)

include rearranged

/-- The same records are selected. -/
theorem selected_perm : (selected other raw).Perm (selected dataset raw) := by
  rw [selected, selected, rearranged.id]
  exact rearranged.records.filter _

/-- A record has the same tuple. -/
theorem tuple_rearranged (names : List String) : tuple other names = tuple dataset names := by
  funext record
  rw [tuple, tuple, rearranged.id]

/-- The same tuples occur. -/
theorem tuples_perm (names : List String) :
    (tuples other raw names).Perm (tuples dataset raw names) := by
  rw [tuples, tuples, tuple_rearranged rearranged]
  exact eraseDups_perm ((selected_perm rearranged).map _)

/-- A tuple has the same members. -/
theorem members_perm (names : List String) (values : List (Option Value)) :
    (members other raw names values).Perm (members dataset raw names values) := by
  rw [members, members, tuple_rearranged rearranged]
  exact (selected_perm rearranged).filter _

/-- A tuple has the same values under every name, up to the sign of a zero. -/
theorem groupCell?_perm (orderless : Orderless raw) (names : List String)
    (values : List (Option Value)) (name : String) :
    (groupCell? other raw names values name).map Value.identity =
      (groupCell? dataset raw names values name).map Value.identity := by
  unfold groupCell?
  split
  · rfl
  · cases found : (rules raw).find? (·.name = name) with
    | none => rw [Option.bind_none, Option.bind_none]
    | some rule =>
      have listed := List.mem_of_find?_eq_some found
      exact result?_perm rearranged.id (members_perm rearranged names values)
        (orderless rule listed)

/-- The query means the same rows in some sequence. -/
theorem rows_perm (orderless : Orderless raw) : (rows other raw).Perm (rows dataset raw) := by
  unfold rows table
  cases grouping? raw with
  | none =>
    rw [rearranged.id]
    exact ((selected_perm rearranged).map _).map _
  | some names =>
    have same : rowOf (columns raw) ∘ groupCell? other raw names =
        rowOf (columns raw) ∘ groupCell? dataset raw names := by
      funext values
      exact rowOf_congr (groupCell?_perm rearranged orderless names values)
    simp only [List.map_map, same]
    exact (tuples_perm rearranged names).map _

/-- Each row of the table is one of the other table, up to the sign of a zero. -/
theorem exists_cell (orderless : Orderless raw) {cell : String → Option Value}
    (member : cell ∈ table dataset raw) :
    ∃ another ∈ table other raw,
      ∀ name, (another name).map Value.identity = (cell name).map Value.identity := by
  unfold table at member ⊢
  cases grouped : grouping? raw with
  | none =>
    rw [grouped] at member
    obtain ⟨record, chosen, rfl⟩ := List.mem_map.mp member
    have chosenToo := (selected_perm rearranged).mem_iff.mpr chosen
    refine ⟨_, List.mem_map_of_mem chosenToo, fun name => ?_⟩
    rw [rearranged.id]
  | some names =>
    rw [grouped] at member
    obtain ⟨values, occurs, rfl⟩ := List.mem_map.mp member
    have occursToo := (tuples_perm rearranged names).mem_iff.mpr occurs
    exact ⟨_, List.mem_map_of_mem occursToo, groupCell?_perm rearranged orderless names values⟩

/-- So where the table cannot be sorted, the other one cannot be sorted either. -/
theorem Unsortable.transfers (orderless : Orderless raw) (unsortable : Unsortable dataset raw) :
    Unsortable other raw := by
  obtain ⟨many, unplaced, first, inFirst, second, inSecond, third, inThird, contradiction⟩ :=
    unsortable
  have size : Query.size other raw = Query.size dataset raw := by
    rw [← length_rows, ← length_rows, (rows_perm rearranged orderless).length_eq]
  refine ⟨size ▸ many, fun numbers => unplaced ?_, ?_⟩
  · intro cell member name listed value held
    obtain ⟨another, inOther, same⟩ := exists_cell rearranged orderless member
    have given := same name
    rw [Option.mem_def.mp held, Option.map_some, Option.map_eq_some_iff] at given
    obtain ⟨original, found, alike⟩ := given
    rw [← Value.isNaN_identity, ← alike, Value.isNaN_identity]
    exact numbers another inOther name listed original found
  · obtain ⟨one, inOne, firstSame⟩ := exists_cell rearranged orderless inFirst
    obtain ⟨two, inTwo, secondSame⟩ := exists_cell rearranged orderless inSecond
    obtain ⟨three, inThree, thirdSame⟩ := exists_cell rearranged orderless inThird
    refine ⟨one, inOne, two, inTwo, three, inThree, ?_⟩
    rw [mayPrecede_of_identities raw firstSame secondSame,
      mayPrecede_of_identities raw secondSame thirdSame,
      mayPrecede_of_identities raw firstSame thirdSame]
    exact contradiction

end

end Query

/-- An accepted query whose rules are orderless, or that has none, is refused on a
dataset and on the same dataset rearranged for the same number of rows, or it is answered
on both, with the same rows in some sequence. Only where some record holds what is not a
number the rows may have no order, and on neither dataset then. -/
theorem answer_rearranged {lookup other : Lookup} {limit : Nat} {raw : Json} {plan : Plan}
    {dataset : Dataset} (accepted : Plan.ofQuery lookup raw = .ok plan)
    (found : other dataset.id = some dataset) (rearranged : plan.dataset.Rearranges dataset)
    (orderless : Query.Orderless raw) :
    (∃ count, answer lookup limit raw = .error (.error (.tooLarge count limit)) ∧
      answer other limit raw = .error (.error (.tooLarge count limit))) ∨
    (∃ rows others, answer lookup limit raw = .ok rows ∧ answer other limit raw = .ok others ∧
      others.Perm rows) ∨
    plan.dataset.HoldsNaN ∧ answer lookup limit raw = .error (.defect .contradictoryOrder) ∧
      answer other limit raw = .error (.defect .contradictoryOrder) := by
  -- Acceptance depends on the identifier and the kind alone.
  have scope : dataset.scope = plan.dataset.scope := by
    rw [Dataset.scope, Dataset.scope, rearranged.id, rearranged.kind]
  have derived := (Query.isQuery_of_ofQuery accepted).2
  rw [← scope] at derived
  obtain ⟨otherPlan, otherAccepted, rfl⟩ := derived.exists_plan_on found
  have permuted := Query.rows_perm rearranged orderless
  have size : Query.size otherPlan.dataset raw = Query.size plan.dataset raw := by
    rw [← Query.length_rows, ← Query.length_rows, permuted.length_eq]
  by_cases exceeded : limit < Query.size plan.dataset raw
  · have refused := answer_eq_tooLarge accepted exceeded
    have otherRefused := answer_eq_tooLarge otherAccepted (size ▸ exceeded)
    rw [size] at otherRefused
    exact .inl ⟨_, refused, otherRefused⟩
  · have within := Nat.not_lt.mp exceeded
    have otherWithin : Query.size otherPlan.dataset raw ≤ limit := size ▸ within
    by_cases unsortable : Query.Unsortable plan.dataset raw
    · have otherUnsortable := unsortable.transfers rearranged orderless
      have holds : plan.dataset.HoldsNaN := by
        by_contra numbers
        exact unsortable.unplaced (Query.numbersOnly_of_not_holdsNaN numbers orderless.not_adds)
      exact .inr (.inr ⟨holds, answer_of_unsortable accepted within unsortable,
        answer_of_unsortable otherAccepted otherWithin otherUnsortable⟩)
    · have otherSortable : ¬Query.Unsortable otherPlan.dataset raw := fun otherUnsortable =>
        unsortable (otherUnsortable.transfers rearranged.symm orderless)
      obtain ⟨rows, answered, meant⟩ := (answer_gives_perm accepted within).exists_rows unsortable
      obtain ⟨others, otherAnswered, otherMeant⟩ :=
        (answer_gives_perm otherAccepted otherWithin).exists_rows otherSortable
      exact .inr (.inl ⟨rows, others, answered, otherAnswered,
        otherMeant.trans (permuted.trans meant.symm)⟩)

/-- The audited sections with the last one in front. Now the zero without a sign comes
first. -/
def Sample.rotated : Dataset :=
  ⟨"courses", .sections [
    course "phil" 60,
    { course "cpsc" 80 with audit := .ofUnits true 0 },
    { course "math" 70 with audit := .ofInt 4 }]⟩

/-- The largest average for each number of audits. -/
def Sample.highest : Json :=
  .object [
    ("OPTIONS", .object [("COLUMNS", .array [.text "courses_audit", .text "highest"])]),
    ("TRANSFORMATIONS", .object [
      ("APPLY", .array [.object [("highest", .object [("MAX", .text "courses_avg")])]]),
      ("GROUP", .array [.text "courses_audit"])]),
    ("WHERE", .object [])]

/-- The largest averages are the same wherever the sections stand. -/
theorem highest_rearranged : ∃ rows others,
    answer (.ofList [Sample.audited]) 2 Sample.highest = .ok rows ∧
      answer (.ofList [Sample.rotated]) 2 Sample.highest = .ok others ∧ others.Perm rows := by
  obtain ⟨plan, accepted, bound⟩ : ∃ plan,
      Plan.ofQuery (.ofList [Sample.audited]) Sample.highest = .ok plan ∧
        plan.dataset = Sample.audited :=
    Checks.exists_ok_of_seen (by decide +kernel)
  have rearranged : plan.dataset.Rearranges Sample.rotated := by
    rw [bound]
    exact ⟨rfl, rfl, (List.perm_append_singleton _ _).symm⟩
  have within : Query.size plan.dataset Sample.highest ≤ 2 := by
    rw [bound]
    decide +kernel
  have answered := answer_of_unordered accepted within rfl
  have found : Lookup.ofList [Sample.rotated] Sample.rotated.id = some Sample.rotated := by
    simp [Lookup.ofList]
  have orderless : Query.Orderless Sample.highest := by
    decide +kernel
  rcases answer_rearranged accepted found rearranged orderless with
    ⟨count, refused, -⟩ | same | ⟨-, stopped, -⟩
  · rw [refused] at answered
    cases answered
  · exact same
  · rw [stopped] at answered
    cases answered

end CampusQuery
