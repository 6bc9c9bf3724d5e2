import CampusQuery.Proofs.Conditions
import CampusQuery.Proofs.Plans

/-!
# What an accepted query says

The plan that is made of a query has the parts that can be read off the query as it is
written: the same condition, the same columns, the same grouping keys and rules, under
the names that stand in the text.
-/

namespace CampusQuery

/-- The texts in a written list are the texts that were written. -/
theorem Json.texts_written {α : Type} (label : α → String) (parts : List α) :
    (Json.array (parts.map fun part => .text (label part))).texts = parts.map label := by
  induction parts with
  | nil => rfl
  | cons part rest inductionHypothesis =>
    simp only [texts, items, List.map_cons, List.filterMap_cons, text?] at inductionHypothesis ⊢
    rw [inductionHypothesis]

/-- A member of an object is what stands under its name. -/
theorem Json.member_object {members : List (String × Json)} {name : String} {raw : Json}
    (found : members.lookup name = some raw) : (Json.object members).member name = raw := by
  rw [member, member?, found, Option.getD_some]

/-- A member that an object does not have is null. -/
theorem Json.member_missing {members : List (String × Json)} {name : String}
    (missing : members.lookup name = none) : (Json.object members).member name = .null := by
  rw [member, member?, missing, Option.getD_none]

/-- A rule as it is declared. -/
def Rule.declared (rule : Rule) : Query.DeclaredRule :=
  ⟨rule.name, rule.aggregate.label, rule.key.display⟩

/-- Rules as they are written declare these rules. -/
theorem Query.filterMap_rule?_written (rules : List Rule) :
    (rules.map Rule.written).filterMap rule? = rules.map Rule.declared := by
  induction rules with
  | nil => rfl
  | cons rule rest inductionHypothesis =>
    rw [List.map_cons, List.map_cons, ← inductionHypothesis]
    rfl

namespace Plan

variable {lookup : Lookup} {members : List (String × Json)} {plan : Plan}

/-- The filter is read from the condition. -/
theorem Spells.condition_read (spelled : Spells lookup members plan) :
    Filter.read plan.scope (Query.condition (.object members)) = .ok plan.filter := by
  obtain ⟨raw, found, read⟩ := spelled.condition
  rw [Query.condition, Json.member_object found]
  exact read

/-- The columns are labelled with the names in `COLUMNS`. -/
theorem Spells.columns_eq (spelled : Spells lookup members plan) :
    Query.columns (.object members) = plan.options.labels := by
  obtain ⟨given, found, optionsSpelled⟩ := spelled.options
  rw [Query.columns, Json.member_object found, Json.member_object optionsSpelled.columns]
  exact Json.texts_written Column.label plan.options.columns

/-- The order is read from the value of `ORDER`; both are there or both are missing. -/
theorem Spells.order_rel (spelled : Spells lookup members plan) :
    Option.Rel (fun raw order => order.Spells raw ∧
      ∀ key ∈ order.keys, key.Declared plan.ruleNames ∧ key ∈ plan.options.columns)
      (Query.order? (.object members)) plan.options.order := by
  obtain ⟨given, found, optionsSpelled⟩ := spelled.options
  rw [Query.order?, Json.member_object found]
  exact optionsSpelled.order

/-- The order is in the written form of the value of `ORDER`. -/
theorem Spells.order_written (spelled : Spells lookup members plan) {order : SortOrder}
    (ordered : plan.options.order = some order) :
    ∃ raw, Query.order? (.object members) = some raw ∧ order.Spells raw := by
  obtain ⟨raw, present, written, -⟩ := Checks.rel_some_right_iff.mp (ordered ▸ spelled.order_rel)
  exact ⟨raw, present, written⟩

/-- The grouping keys display the names in `GROUP`. -/
theorem Spells.grouping_eq (spelled : Spells lookup members plan) :
    Query.grouping? (.object members) =
      plan.transformation.map fun transformation => transformation.group.map Key.display := by
  rw [Query.grouping?, Json.member?]
  cases present : plan.transformation with
  | none => rw [spelled.transformation_missing present, Option.map_none, Option.map_none]
  | some transformation =>
    obtain ⟨given, clause, transformationSpelled⟩ := spelled.transformation_spelled present
    rw [clause, Option.map_some, Option.map_some, Json.member_object transformationSpelled.group]
    exact congrArg some (Json.texts_written Key.display transformation.group)

/-- The rules are declared in `APPLY`. -/
theorem Spells.rules_eq (spelled : Spells lookup members plan) :
    Query.rules (.object members) = plan.rules.map Rule.declared := by
  rw [Query.rules, rules]
  cases present : plan.transformation with
  | none =>
    rw [Json.member_missing (spelled.transformation_missing present)]
    rfl
  | some transformation =>
    obtain ⟨given, clause, transformationSpelled⟩ := spelled.transformation_spelled present
    rw [Json.member_object clause, Json.member_object transformationSpelled.apply]
    exact Query.filterMap_rule?_written transformation.rules

/-- The names in `APPLY` are those of the plan's rules. -/
theorem Spells.rule_names_eq (spelled : Spells lookup members plan) :
    (Query.rules (.object members)).map Query.DeclaredRule.name = plan.ruleNames := by
  rw [spelled.rules_eq, List.map_map]
  rfl

/-- No two rules in `APPLY` have one name. -/
theorem Spells.rule_names_distinct (spelled : Spells lookup members plan) :
    ((Query.rules (.object members)).map Query.DeclaredRule.name).Nodup := by
  rw [spelled.rule_names_eq, ruleNames, rules]
  cases present : plan.transformation with
  | none => exact List.nodup_nil
  | some transformation =>
    obtain ⟨given, -, transformationSpelled⟩ := spelled.transformation_spelled present
    exact transformationSpelled.distinct

/-- Where there are groups, every name in `COLUMNS` is in `GROUP` or that of a rule. -/
theorem Spells.column_grouped (spelled : Spells lookup members plan) {names : List String}
    (grouped : Query.grouping? (.object members) = some names) {name : String}
    (selected : name ∈ Query.columns (.object members)) :
    name ∈ names ∨ ∃ rule ∈ Query.rules (.object members), rule.name = name := by
  rw [spelled.grouping_eq, Option.map_eq_some_iff] at grouped
  obtain ⟨transformation, present, rfl⟩ := grouped
  rw [spelled.columns_eq] at selected
  obtain ⟨column, listed, rfl⟩ := List.mem_map.mp selected
  cases column with
  | field key =>
    have inGroup := spelled.grouped transformation present key (Options.mem_keys_iff.mpr listed)
    exact .inl (List.mem_map_of_mem inGroup)
  | aggregate name =>
    obtain ⟨given, -, optionsSpelled⟩ := spelled.options
    have declared : name ∈ plan.ruleNames := optionsSpelled.declared _ listed
    rw [← spelled.rule_names_eq] at declared
    exact .inr (List.mem_map.mp declared)

end Plan

end CampusQuery
