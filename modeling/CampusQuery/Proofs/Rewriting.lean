import CampusQuery.Proofs.Answers
import CampusQuery.Proofs.Language

/-!
# Rewriting conditions

A condition may be rewritten by the laws of Boolean algebra at any depth, inside parts that
are no conditions as well. Two facts carry every law through every context: whether the
whole is a condition, and what it decides about a record. Evaluation stops at the first
child that decides, so neither fact can be read off the evaluation of one arrangement of
the children. Acceptance looks at every child, and the truth of a condition was shown not
to depend on stopping early.
-/

namespace CampusQuery

/-- The two ways to combine conditions. -/
inductive Junction where
  | conjunction
  | disjunction
deriving DecidableEq

namespace Junction

/-- The name of a junction in a condition. -/
def label : Junction → String
  | conjunction => "AND"
  | disjunction => "OR"

/-- The one that takes the place of the other under a negation. -/
def dual : Junction → Junction
  | conjunction => disjunction
  | disjunction => conjunction

/-- A combination as it is written. -/
def combine (junction : Junction) (items : List Json) : Json :=
  .object [(junction.label, .array items)]

/-- What a combination decides, given what its children decide. -/
def decides : Junction → List Bool → Bool
  | conjunction, verdicts => verdicts.all id
  | disjunction, verdicts => verdicts.any id

/-- Neither the sequence nor the number of equal verdicts is seen. -/
theorem decides_congr (junction : Junction) {verdicts others : List Bool}
    (same : ∀ verdict, verdict ∈ verdicts ↔ verdict ∈ others) :
    junction.decides verdicts = junction.decides others := by
  rw [Bool.eq_iff_iff]
  cases junction with
  | conjunction =>
    simp only [decides, List.all_eq_true]
    exact forall_congr' fun verdict => imp_congr_left (same verdict)
  | disjunction =>
    simp only [decides, List.any_eq_true]
    exact exists_congr fun verdict => and_congr_left fun _ => same verdict

/-- A combination among the children of its own kind decides as its children would in its
place. -/
theorem decides_flatten (junction : Junction) (before inner after : List Bool) :
    junction.decides (before ++ junction.decides inner :: after) =
      junction.decides (before ++ inner ++ after) := by
  cases junction <;>
    simp only [decides, List.all_append, List.any_append, List.all_cons, List.any_cons, id_eq,
      Bool.and_assoc, Bool.or_assoc]

/-- Of a single verdict either junction makes that verdict. -/
theorem decides_singleton (junction : Junction) (verdict : Bool) :
    junction.decides [verdict] = verdict := by
  cases junction <;> simp [decides]

/-- A negated combination decides as the dual one of the negated children. -/
theorem not_decides (junction : Junction) (verdicts : List Bool) :
    (!junction.decides verdicts) = junction.dual.decides (verdicts.map (!·)) := by
  induction verdicts with
  | nil => cases junction <;> rfl
  | cons verdict rest inductionHypothesis =>
    cases junction <;>
      simp only [decides, dual, List.all_cons, List.any_cons, List.map_cons, id_eq, Bool.not_and,
        Bool.not_or] at inductionHypothesis ⊢ <;>
      rw [inductionHypothesis]

end Junction

namespace Query

/-- A negation as it is written. -/
def negate (raw : Json) : Json := .object [("NOT", raw)]

/-- The smallest congruence that has the laws of Boolean algebra which a condition can be
rewritten by. The parts may be any JSON values. -/
inductive Rewrites : Json → Json → Prop where
  | refl (raw : Json) : Rewrites raw raw
  | symm {raw other : Json} (rewritten : Rewrites raw other) : Rewrites other raw
  | trans {raw other third : Json} (first : Rewrites raw other) (second : Rewrites other third) :
      Rewrites raw third
  /-- Inside a conjunction or a disjunction. -/
  | inside (junction : Junction) {raw other : Json} (before after : List Json)
      (rewritten : Rewrites raw other) :
      Rewrites (junction.combine (before ++ raw :: after))
        (junction.combine (before ++ other :: after))
  /-- Inside a negation. -/
  | negated {raw other : Json} (rewritten : Rewrites raw other) :
      Rewrites (negate raw) (negate other)
  | permuted (junction : Junction) {items others : List Json} (permuted : items.Perm others) :
      Rewrites (junction.combine items) (junction.combine others)
  | repeated (junction : Junction) {item : Json} {items : List Json} (present : item ∈ items) :
      Rewrites (junction.combine items) (junction.combine (item :: items))
  | doubleNegation (raw : Json) : Rewrites (negate (negate raw)) raw
  | single (junction : Junction) (raw : Json) : Rewrites (junction.combine [raw]) raw
  | flattened (junction : Junction) (before after : List Json) {inner : List Json}
      (some : inner ≠ []) :
      Rewrites (junction.combine (before ++ junction.combine inner :: after))
        (junction.combine (before ++ inner ++ after))
  | deMorgan (junction : Junction) (items : List Json) :
      Rewrites (negate (junction.combine items)) (junction.dual.combine (items.map negate))

/-- The query with another condition in `WHERE`, if it has one there. -/
def withCondition (condition : Json) : Json → Json
  | .object members => .object (members.map fun (name, value) =>
      (name, if name = "WHERE" then condition else value))
  | other => other

section

variable {scope : Scope}

/-- A combination is a condition exactly when it has children and all of them are. -/
theorem isCondition_combine_iff {junction : Junction} {items : List Json} :
    IsCondition scope (junction.combine items) ↔
      items ≠ [] ∧ ∀ item ∈ items, IsCondition scope item := by
  constructor
  · intro derived
    generalize written : junction.combine items = raw at derived
    cases derived with
    | and some each =>
      cases junction with
      | conjunction =>
        obtain rfl : items = _ := by simpa [Junction.combine, Junction.label] using written
        exact ⟨some, each⟩
      | disjunction => simp [Junction.combine, Junction.label] at written
    | or some each =>
      cases junction with
      | conjunction => simp [Junction.combine, Junction.label] at written
      | disjunction =>
        obtain rfl : items = _ := by simpa [Junction.combine, Junction.label] using written
        exact ⟨some, each⟩
    | not => cases junction <;> simp [Junction.combine, Junction.label] at written
    | _ => simp [Junction.combine] at written
  · rintro ⟨some, each⟩
    cases junction with
    | conjunction => exact .and some each
    | disjunction => exact .or some each

/-- A negation is a condition exactly when what it negates is. -/
theorem isCondition_negate_iff {raw : Json} :
    IsCondition scope (negate raw) ↔ IsCondition scope raw := by
  constructor
  · intro derived
    generalize written : negate raw = whole at derived
    cases derived with
    | @not body inner =>
      obtain rfl : raw = body := by simpa [negate] using written
      exact inner
    | compare comparison =>
      simp only [negate, Json.object.injEq, List.cons.injEq, Prod.mk.injEq] at written
      obtain ⟨⟨rfl, -⟩, -⟩ := written
      simp at comparison
    | _ => simp [negate] at written
  · exact .not

/-- Rewriting keeps what is a condition and what is none. -/
theorem Rewrites.isCondition_iff {raw other : Json} (rewritten : Rewrites raw other) :
    IsCondition scope raw ↔ IsCondition scope other := by
  induction rewritten with
  | refl => exact Iff.rfl
  | symm _ inductionHypothesis => exact inductionHypothesis.symm
  | trans _ _ first second => exact first.trans second
  | inside junction before after _ inductionHypothesis =>
    simp only [isCondition_combine_iff, List.forall_mem_append, List.forall_mem_cons,
      inductionHypothesis, ne_eq, List.append_eq_nil_iff, reduceCtorEq, and_false,
      not_false_eq_true]
  | negated _ inductionHypothesis =>
    rw [isCondition_negate_iff, isCondition_negate_iff, inductionHypothesis]
  | @permuted junction items others permuted =>
    have empty : items = [] ↔ others = [] := by
      rw [← List.length_eq_zero_iff, ← List.length_eq_zero_iff, permuted.length_eq]
    simp only [isCondition_combine_iff, permuted.mem_iff, ne_eq, empty]
  | @repeated junction item items present =>
    have some : items ≠ [] := List.ne_nil_of_mem present
    simp only [isCondition_combine_iff, List.forall_mem_cons, ne_eq, reduceCtorEq,
      not_false_eq_true, true_and, some]
    constructor
    · intro each
      exact ⟨each item present, each⟩
    · exact And.right
  | doubleNegation => rw [isCondition_negate_iff, isCondition_negate_iff]
  | single => simp [isCondition_combine_iff]
  | flattened junction before after some =>
    simp only [isCondition_combine_iff, List.forall_mem_append, List.forall_mem_cons, some, ne_eq,
      List.append_eq_nil_iff, reduceCtorEq, and_false, false_and, not_false_eq_true, true_and,
      and_assoc]
  | deMorgan junction items =>
    simp only [isCondition_negate_iff, isCondition_combine_iff, List.forall_mem_map, ne_eq,
      List.map_eq_nil_iff]

end

section

variable (dataset : String) (record : Record)

/-- A combination decides by the truth of its children. -/
theorem holds_combine (junction : Junction) (items : List Json) :
    holds dataset record (junction.combine items) =
      junction.decides (items.map (holds dataset record)) := by
  rw [← holdsEach_eq_map]
  cases junction <;> rfl

/-- A negated condition holds where the condition does not. -/
theorem holds_negate (raw : Json) :
    holds dataset record (negate raw) = !holds dataset record raw := rfl

/-- Rewriting keeps the truth of a condition for every record. -/
theorem Rewrites.holds_eq {raw other : Json} (rewritten : Rewrites raw other) :
    holds dataset record raw = holds dataset record other := by
  induction rewritten with
  | refl => rfl
  | symm _ inductionHypothesis => exact inductionHypothesis.symm
  | trans _ _ first second => exact first.trans second
  | inside junction before after _ inductionHypothesis =>
    rw [holds_combine, holds_combine, List.map_append, List.map_append, List.map_cons,
      List.map_cons, inductionHypothesis]
  | negated _ inductionHypothesis => rw [holds_negate, holds_negate, inductionHypothesis]
  | permuted junction permuted =>
    rw [holds_combine, holds_combine]
    exact junction.decides_congr fun verdict => (permuted.map _).mem_iff
  | @repeated junction item items present =>
    rw [holds_combine, holds_combine]
    refine junction.decides_congr fun verdict => ?_
    rw [List.map_cons, List.mem_cons]
    constructor
    · exact Or.inr
    · intro decided
      rcases decided with first | later
      · exact first ▸ List.mem_map_of_mem present
      · exact later
  | doubleNegation => rw [holds_negate, holds_negate, Bool.not_not]
  | single junction raw =>
    rw [holds_combine, List.map_singleton, Junction.decides_singleton]
  | flattened junction before after =>
    rw [holds_combine, holds_combine, List.map_append, List.map_cons, holds_combine,
      Junction.decides_flatten, List.map_append, List.map_append]
  | deMorgan junction items =>
    rw [holds_negate, holds_combine, Junction.not_decides, holds_combine, List.map_map,
      List.map_map]
    rfl

end

/-- Another condition changes what stands under `WHERE` and nothing else. -/
theorem member?_withCondition (condition raw : Json) (name : String) :
    (withCondition condition raw).member? name =
      (raw.member? name).map fun value => if name = "WHERE" then condition else value := by
  cases raw with
  | object members =>
    exact lookup_map (fun name value => if name = "WHERE" then condition else value) members name
  | _ => rfl

/-- Another condition leaves every other clause as it is. -/
theorem member?_withCondition_of_ne {name : String} (different : name ≠ "WHERE")
    (condition raw : Json) : (withCondition condition raw).member? name = raw.member? name := by
  simp only [member?_withCondition, if_neg different, Option.map_id_fun', id_eq]

section

variable (condition raw : Json)

end

/-- A query that has no condition gets none, and one that has a condition gets the other. -/
theorem condition_withCondition (condition raw : Json) :
    Query.condition (withCondition condition raw) =
      if (raw.member? "WHERE").isSome then condition else .null := by
  rw [Query.condition, Json.member, member?_withCondition]
  cases raw.member? "WHERE" <;> rfl

/-- Under another condition a query of the language stays one. -/
theorem isQuery_withCondition {scope : Scope} {condition other raw : Json}
    (keeps : IsCondition scope condition → IsCondition scope other)
    (derived : IsQuery scope (withCondition condition raw)) :
    IsQuery scope (withCondition other raw) := by
  cases raw with
  | object members =>
    have same {name : String} (different : name ≠ "WHERE") :
        (withCondition other (.object members)).member? name =
          (withCondition condition (.object members)).member? name := by
      rw [member?_withCondition_of_ne different, member?_withCondition_of_ne different]
    have clause {found : Json} (filtering :
        (withCondition condition (.object members)).member? "WHERE" = some found) :
        found = condition ∧
          (withCondition other (.object members)).member? "WHERE" = some other := by
      rw [member?_withCondition, Option.map_eq_some_iff] at filtering
      obtain ⟨original, written, rfl⟩ := filtering
      rw [member?_withCondition, written]
      exact ⟨rfl, rfl⟩
    have names {listed : List String}
        (known : ∀ member ∈ members.map fun (name, value) =>
          (name, if name = "WHERE" then condition else value), member.1 ∈ listed) :
        ∀ member ∈ members.map fun (name, value) =>
          (name, if name = "WHERE" then other else value), member.1 ∈ listed := by
      rw [List.forall_mem_map] at known ⊢
      exact known
    cases derived with
    | ungrouped known filtering selecting plain isCondition isOptions =>
      obtain ⟨rfl, otherFiltering⟩ := clause filtering
      exact .ungrouped (names known) otherFiltering ((same (by decide)).trans selecting)
        ((same (by decide)).trans plain) (keeps isCondition) isOptions
    | grouped known filtering selecting transforming isCondition isTransformation isOptions =>
      obtain ⟨rfl, otherFiltering⟩ := clause filtering
      exact .grouped (names known) otherFiltering ((same (by decide)).trans selecting)
        ((same (by decide)).trans transforming) (keeps isCondition) isTransformation isOptions
  | _ => exact derived

section

variable {condition other : Json} (rewritten : Rewrites condition other)

include rewritten

/-- A rewritten condition selects the same records. -/
theorem Rewrites.selected_eq (dataset : Dataset) (raw : Json) :
    selected dataset (withCondition other raw) =
      selected dataset (withCondition condition raw) := by
  rw [selected, selected, condition_withCondition, condition_withCondition]
  cases raw.member? "WHERE" with
  | none => rfl
  | some written =>
    refine List.filter_congr fun record _ => ?_
    exact (rewritten.holds_eq dataset.id record).symm

/-- A query that is accepted is accepted with its condition rewritten, on the same dataset. -/
theorem Rewrites.exists_plan {lookup : Lookup} {raw : Json} {plan : Plan}
    (accepted : Plan.ofQuery lookup (withCondition condition raw) = .ok plan) :
    ∃ rewrittenPlan, Plan.ofQuery lookup (withCondition other raw) = .ok rewrittenPlan ∧
      rewrittenPlan.dataset = plan.dataset := by
  obtain ⟨found, derived⟩ := isQuery_of_ofQuery accepted
  exact (isQuery_withCondition rewritten.isCondition_iff.mp derived).exists_plan_on found

end

end Query

namespace Sample

/-- The sections of mathematics. -/
def mathematics : Json := .object [("IS", .object [("courses_dept", .text "math")])]

/-- The sections with a low average. -/
def low : Json := .object [("LT", .object [("courses_avg", .number (.integer 75))])]

/-- Not both outside mathematics and with a low average. -/
def guarded : Json := Query.negate (Junction.conjunction.combine [Query.negate mathematics, low])

end Sample

end CampusQuery
