import CampusQuery.Proofs.GroupRows

/-!
# Columns on their own

What stands in a column of an answer is not changed by other columns or other rules. A
query may be widened by both, in any sequence and with repetitions, and its rows are the
rows of the wider query without the new names. The two queries may find their dataset in
different places, but each of these names it with a key, and no key is of two datasets. A
rule is found by its name alone, so that new rules would take the place of old ones if names
could be repeated; in an accepted query none is.
-/

namespace CampusQuery

namespace Query

/-- The wide query asks for the columns of the other one and perhaps for more, declares its
rules and perhaps more, and has the condition, the grouping and the order in common with
it. -/
structure Widens (raw wide : Json) : Prop where
  sameCondition : condition wide = condition raw
  sameGrouping : grouping? wide = grouping? raw
  sameOrder : order? wide = order? raw
  keptColumns : ∀ name ∈ columns raw, name ∈ columns wide
  keptRules : ∀ rule ∈ rules raw, rule ∈ rules wide

/-- The names that tell which dataset a query is about: those in `GROUP`, or the columns
if there are no groups. -/
def naming (raw : Json) : List String := (grouping? raw).getD (columns raw)

end Query

namespace Plan

variable {lookup : Lookup} {members others : List (String × Json)} {plan wider : Plan}

/-- Some name tells the dataset. -/
theorem Spells.naming_ne_nil (spelled : Spells lookup members plan) :
    Query.naming (.object members) ≠ [] := by
  rw [Query.naming, spelled.grouping_eq]
  cases present : plan.transformation with
  | none =>
    obtain ⟨given, -, optionsSpelled⟩ := spelled.options
    rw [spelled.columns_eq]
    exact fun none => optionsSpelled.selected (List.map_eq_nil_iff.mp none)
  | some transformation =>
    obtain ⟨given, -, transformationSpelled⟩ := spelled.transformation_spelled present
    exact fun none => transformationSpelled.grouped (List.map_eq_nil_iff.mp none)

/-- A name that tells the dataset is displayed by a key of it. -/
theorem Spells.key_of_naming (spelled : Spells lookup members plan) {name : String}
    (listed : name ∈ Query.naming (.object members)) :
    ∃ key : Key, key.display = name ∧ IsId key.dataset ∧ plan.scope.Owns key := by
  rw [Query.naming, spelled.grouping_eq] at listed
  cases present : plan.transformation with
  | none =>
    obtain ⟨given, -, optionsSpelled⟩ := spelled.options
    have noRules : plan.ruleNames = [] := by simp [ruleNames, rules, present]
    rw [present, spelled.columns_eq] at listed
    obtain ⟨column, selected, rfl⟩ := List.mem_map.mp listed
    have declared := optionsSpelled.declared column selected
    rw [noRules] at declared
    cases column with
    | field key => exact ⟨key, rfl, declared.1, spelled.resolves selected⟩
    | aggregate name => exact absurd declared List.not_mem_nil
  | some transformation =>
    obtain ⟨given, -, transformationSpelled⟩ := spelled.transformation_spelled present
    rw [present] at listed
    obtain ⟨key, inGroup, rfl⟩ := List.mem_map.mp listed
    exact ⟨key, rfl, transformationSpelled.owned key inGroup⟩

/-- Two queries whose dataset one name tells are about the same dataset. -/
theorem Spells.dataset_eq (spelled : Spells lookup members plan)
    (otherSpelled : Spells lookup others wider) {name : String}
    (listed : name ∈ Query.naming (.object members))
    (otherListed : name ∈ Query.naming (.object others)) : wider.dataset = plan.dataset := by
  obtain ⟨key, shown, isId, owned⟩ := spelled.key_of_naming listed
  obtain ⟨other, otherShown, otherIsId, otherOwned⟩ := otherSpelled.key_of_naming otherListed
  obtain rfl := Key.display_injective otherIsId isId (otherShown.trans shown.symm)
  have sameId : wider.dataset.id = plan.dataset.id := otherOwned.dataset.symm.trans owned.dataset
  have found := otherSpelled.found
  rw [sameId, spelled.found] at found
  exact (Option.some.inj found).symm

end Plan

namespace Query

variable {lookup : Lookup} {members others : List (String × Json)} {plan wider : Plan}
  {raw wide : Json} {dataset : Dataset}

/-- The same records are selected. -/
theorem Widens.selected_eq (widened : Widens raw wide) (dataset : Dataset) :
    selected dataset wide = selected dataset raw := by
  rw [selected, selected, widened.sameCondition]

end Query

end CampusQuery
