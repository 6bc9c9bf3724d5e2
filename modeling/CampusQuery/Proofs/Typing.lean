import CampusQuery.Proofs.Conditions
import CampusQuery.Proofs.Plans

/-!
# Plans are well typed

A plan is well typed when everything that it names is there to be read and holds what
is asked of it: each key is a field of the dataset, each comparison and each aggregate
of numbers is on a numeric field, each match on a textual one, and each column that is
no field names a rule of the transformation. Every plan that is made is well typed. No
later stage checks these facts again, and each of them needs only these.
-/

namespace CampusQuery

/-- The type of the values in a column; results of rules are numbers. -/
def Column.holds : Column → FieldType
  | field key => key.field.holds
  | aggregate _ => .numeric

namespace Plan

/-- A column that can be read: a field of the dataset, or a rule of the plan. Without a
transformation there are no rules. -/
def Resolves (plan : Plan) : Column → Prop
  | .field key => plan.scope.Owns key
  | .aggregate name => name ∈ plan.ruleNames

/-- Everything that the plan names can be read and holds what is asked of it. -/
structure WellTyped (plan : Plan) : Prop where
  filter : plan.filter.WellTyped plan.scope
  columns : ∀ column ∈ plan.options.columns, plan.Resolves column
  order : ∀ order ∈ plan.options.order, ∀ key ∈ order.keys, plan.Resolves key
  group : ∀ transformation ∈ plan.transformation, ∀ key ∈ transformation.group,
    plan.scope.Owns key
  rules : ∀ rule ∈ plan.rules, plan.scope.Owns rule.key ∧
    (rule.aggregate.needsNumbers = true → rule.key.isNumeric = true)

/-- The columns that are read for a plan resolve: a field among them is owned by the
dataset, and any other column is declared as a rule. -/
theorem Spells.resolves {lookup : Lookup} {members : List (String × Json)} {plan : Plan}
    (spelled : Spells lookup members plan) {column : Column}
    (selected : column ∈ plan.options.columns) : plan.Resolves column := by
  obtain ⟨given, -, optionsSpelled⟩ := spelled.options
  cases column with
  | field key => exact spelled.owned key (Options.mem_keys_iff.mpr selected)
  | aggregate name => exact optionsSpelled.declared _ selected

/-- Every plan that is made is well typed. -/
theorem wellTyped_of_ofQuery {lookup : Lookup} {raw : Json} {plan : Plan}
    (accepted : ofQuery lookup raw = .ok plan) : plan.WellTyped := by
  obtain ⟨members, rfl, spelled⟩ := ofQuery_eq_ok_iff.mp accepted
  obtain ⟨condition, -, conditionRead⟩ := spelled.condition
  constructor
  · exact Filter.wellTyped_of_read conditionRead
  · intro column selected
    exact spelled.resolves selected
  · intro order ordered key member
    have selected := spelled.order_selected ordered member
    exact spelled.resolves selected
  · intro transformation present key member
    obtain ⟨given, -, transformationSpelled⟩ := spelled.transformation_spelled present
    exact (transformationSpelled.owned key member).2
  · intro rule member
    cases present : plan.transformation with
    | none => simp [rules, present] at member
    | some transformation =>
      obtain ⟨given, -, transformationSpelled⟩ := spelled.transformation_spelled present
      have inRules : rule ∈ transformation.rules := by simpa [rules, present] using member
      have fits := transformationSpelled.fits rule inRules
      exact ⟨fits.owned, fits.numeric⟩

end Plan

end CampusQuery
