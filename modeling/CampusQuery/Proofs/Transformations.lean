import CampusQuery.Transformation
import CampusQuery.Proofs.Keys

/-!
# What reading a transformation accepts

A rule has one written form, and so has a grouping key. A transformation is read exactly
when it lists such forms, at least one key and rules of distinct names, all on fields
of the dataset. Its rule names and its dataset, which are looked at before the rest is
read, are then found as well and are those of the transformation.
-/

namespace CampusQuery

/-- The list of aggregates has all of them. -/
theorem Aggregate.mem_all (aggregate : Aggregate) : aggregate ∈ all := by
  cases aggregate <;> decide

/-- An aggregate is found by its label alone. -/
theorem Aggregate.ofLabel?_eq_some_iff {text : String} {aggregate : Aggregate} :
    ofLabel? text = some aggregate ↔ text = aggregate.label := by
  apply Checks.find?_label_eq_some_iff
  intro aggregate
  cases aggregate <;> decide

/-- A key as it is written. -/
def Key.written (key : Key) : Json := .text key.display

namespace Rule

/-- A name that a rule can have: it is not empty and holds no underscore. -/
def IsName (name : String) : Prop := name ≠ "" ∧ Key.separator ∉ name.toList

/-- A rule as it is written. -/
def written (rule : Rule) : Json :=
  .object [(rule.name, .object [(rule.aggregate.label, rule.key.written)])]

/-- What a rule must be to be read: well named, on a field of the dataset, and on a
numeric one if its aggregate needs numbers. -/
structure Fits (scope : Scope) (rule : Rule) : Prop where
  name : IsName rule.name
  id : IsId rule.key.dataset
  owned : scope.Owns rule.key
  numeric : rule.aggregate.needsNumbers = true → rule.key.isNumeric = true

end Rule

namespace Transformation

variable {scope : Scope}

/-- An item declares a rule if it has one member, under a name for rules. -/
theorem ruleMember_eq_ok_iff {item : Json} {name : String} {body : Json} :
    ruleMember item = .ok (name, body) ↔ item = .object [(name, body)] ∧ Rule.IsName name := by
  constructor
  · intro accepted
    unfold ruleMember at accepted
    split at accepted
    · split at accepted
      · cases accepted
      · rename_i legal
        cases accepted
        simp only [Bool.or_eq_true, String.isEmpty_iff, List.contains_iff_mem, not_or] at legal
        exact ⟨rfl, legal⟩
    · cases accepted
    · cases accepted
  · rintro ⟨rfl, named, plain⟩
    rw [ruleMember, if_neg]
    simp only [Bool.or_eq_true, String.isEmpty_iff, List.contains_iff_mem, not_or]
    exact ⟨named, plain⟩

/-- A token names an aggregate if it is its label. -/
theorem readToken_eq_ok_iff {token : String} {aggregate : Aggregate} :
    readToken token = .ok aggregate ↔ token = aggregate.label := by
  rw [← Aggregate.ofLabel?_eq_some_iff, readToken]
  cases Aggregate.ofLabel? token <;> simp

/-- The body of a rule is read exactly when it is written so for a fitting field. -/
theorem readRule_eq_ok_iff {name : String} {body : Json} {rule : Rule} :
    readRule scope name body = .ok rule ↔
      rule.name = name ∧ body = .object [(rule.aggregate.label, rule.key.written)] ∧
        IsId rule.key.dataset ∧ scope.Owns rule.key ∧
        (rule.aggregate.needsNumbers = true → rule.key.isNumeric = true) := by
  constructor
  · intro accepted
    unfold readRule at accepted
    split at accepted
    · rename_i token target
      obtain ⟨aggregate, tokenRead, applied⟩ := Checks.bind_eq_ok.mp accepted
      obtain rfl := readToken_eq_ok_iff.mp tokenRead
      split at applied
      · obtain ⟨key, resolved, checked⟩ := Checks.bind_eq_ok.mp applied
        obtain ⟨rfl, plain, owned⟩ := Scope.resolve_eq_ok_iff.mp resolved
        split at checked
        · simp only [Checks.throw_bind, Checks.throw_ne_ok] at checked
        · rename_i fit
          obtain rfl := Checks.pure_eq_ok.mp checked
          exact ⟨rfl, rfl, plain, owned, by simpa using fit⟩
      · exact absurd applied (by simp)
    · cases accepted
    · cases accepted
  · obtain ⟨ruleName, aggregate, key⟩ := rule
    rintro ⟨rfl, rfl, plain, owned, numeric⟩
    have tokenRead := readToken_eq_ok_iff.mpr (rfl : aggregate.label = aggregate.label)
    have resolved := Scope.resolve_eq_ok_iff.mpr ⟨rfl, plain, owned⟩
    simp only [Key.written, readRule, tokenRead, Checks.ok_bind, resolved]
    rw [if_neg (by simpa using numeric)]
    rfl

/-- Reading accepts exactly the written forms of fitting rules whose names are new and
distinct. -/
theorem readRules_eq_ok_iff {taken : List String} {items : List Json} {rules : List Rule} :
    readRules scope taken items = .ok rules ↔
      items = rules.map Rule.written ∧ (∀ rule ∈ rules, rule.Fits scope ∧ rule.name ∉ taken) ∧
        (rules.map Rule.name).Nodup := by
  induction items generalizing taken rules with
  | nil =>
    rw [readRules, Except.ok.injEq]
    constructor
    · rintro rfl
      exact ⟨rfl, by simp, .nil⟩
    · rintro ⟨written, -, -⟩
      exact (List.map_eq_nil_iff.mp written.symm).symm
  | cons item rest inductionHypothesis =>
    constructor
    · intro accepted
      obtain ⟨⟨name, body⟩, member, checked⟩ := Checks.bind_eq_ok.mp accepted
      obtain ⟨rfl, legal⟩ := ruleMember_eq_ok_iff.mp member
      dsimp only at checked
      split at checked
      · simp only [Checks.throw_bind, Checks.throw_ne_ok] at checked
      · rename_i new
        simp only [Checks.bind_eq_ok, Checks.pure_eq_ok] at checked
        obtain ⟨rule, read, others, restRead, rfl⟩ := checked
        obtain ⟨rfl, rfl, plain, owned, numeric⟩ := readRule_eq_ok_iff.mp read
        obtain ⟨rfl, each, distinct⟩ := inductionHypothesis.mp restRead
        refine ⟨rfl, List.forall_mem_cons.mpr ⟨⟨⟨legal, plain, owned, numeric⟩, ?_⟩, ?_⟩, ?_⟩
        · exact fun repeated => new (List.contains_iff_mem.mpr repeated)
        · exact fun other member =>
            ⟨(each other member).1, fun old => (each other member).2 (List.mem_cons_of_mem _ old)⟩
        · refine List.nodup_cons.mpr ⟨fun repeated => ?_, distinct⟩
          obtain ⟨other, member, same⟩ := List.mem_map.mp repeated
          exact (each other member).2 (same ▸ List.mem_cons_self)
    · rintro ⟨written, each, distinct⟩
      cases rules with
      | nil => cases written
      | cons rule others =>
        obtain ⟨rfl, rfl⟩ := List.cons.inj written
        obtain ⟨⟨fits, new⟩, othersFit⟩ := List.forall_mem_cons.mp each
        obtain ⟨first, othersDistinct⟩ := List.nodup_cons.mp distinct
        have member := ruleMember_eq_ok_iff.mpr ⟨(rfl : rule.written = _), fits.name⟩
        have read := readRule_eq_ok_iff.mpr ⟨rfl, rfl, fits.id, fits.owned, fits.numeric⟩
        have restRead := inductionHypothesis.mpr ⟨rfl, fun other inOthers =>
          ⟨(othersFit other inOthers).1, fun old => by
            rcases List.mem_cons.mp old with same | earlier
            · exact first (List.mem_map.mpr ⟨other, inOthers, same⟩)
            · exact (othersFit other inOthers).2 earlier⟩, othersDistinct⟩
        rw [readRules, member, Checks.ok_bind]
        dsimp only
        rw [if_neg (fun old => new (List.contains_iff_mem.mp old)), read, Checks.ok_bind, restRead]
        rfl

/-- The names of rules that are read are found without their bodies. -/
theorem readNames_of_readRules {taken : List String} {items : List Json} {rules : List Rule}
    (accepted : readRules scope taken items = .ok rules) :
    readNames taken items = .ok (rules.map Rule.name) := by
  induction items generalizing taken rules with
  | nil =>
    cases accepted
    rfl
  | cons item rest inductionHypothesis =>
    obtain ⟨⟨name, body⟩, member, checked⟩ := Checks.bind_eq_ok.mp accepted
    rw [readNames, member, Checks.ok_bind]
    dsimp only at checked ⊢
    split at checked
    · simp only [Checks.throw_bind, Checks.throw_ne_ok] at checked
    · rename_i new
      simp only [Checks.bind_eq_ok, Checks.pure_eq_ok] at checked
      obtain ⟨rule, read, others, restRead, rfl⟩ := checked
      rw [if_neg new, inductionHypothesis restRead, ← (readRule_eq_ok_iff.mp read).1]
      rfl

/-- A transformation is an object without unknown clauses. -/
theorem members_eq_ok_iff {raw : Json} {listed : List (String × Json)} :
    members raw = .ok listed ↔ raw = .object listed ∧ ∀ member ∈ listed, member.1 ∈ clauses := by
  rw [← Checks.unknown_eq_none_iff]
  constructor
  · intro accepted
    unfold members at accepted
    split at accepted
    · split at accepted
      · cases accepted
      · rename_i unknown
        cases accepted
        exact ⟨rfl, unknown⟩
    · cases accepted
  · rintro ⟨rfl, unknown⟩
    simp only [members, unknown]

/-- The groups of a transformation are an array that is not empty. -/
theorem groupItems_eq_ok_iff {members : List (String × Json)} {items : List Json} :
    groupItems members = .ok items ↔ members.lookup "GROUP" = some (.array items) ∧ items ≠ [] := by
  unfold groupItems
  split <;> rename_i found <;> simp only [found, reduceCtorEq, Except.ok.injEq, Option.some.injEq,
    Json.array.injEq, false_and, false_iff, not_and, not_not]
  · exact Eq.symm
  · rename_i some
    constructor
    · rintro rfl
      exact ⟨rfl, some⟩
    · exact And.left
  · rintro rfl
    rename_i notArray
    exact absurd rfl (notArray items)

/-- The rules of a transformation are an array. -/
theorem ruleItems_eq_ok_iff {members : List (String × Json)} {items : List Json} :
    ruleItems members = .ok items ↔ members.lookup "APPLY" = some (.array items) := by
  unfold ruleItems
  split <;> rename_i found <;> simp only [found, reduceCtorEq, Except.ok.injEq, Option.some.injEq,
    Json.array.injEq, false_iff]
  rintro rfl
  rename_i notArray
  exact absurd rfl (notArray items)

/-- What a transformation is when it is read: its keys, at least one, and its rules in
the written form of the members, all fitting the dataset. -/
structure Spells (scope : Scope) (members : List (String × Json))
    (transformation : Transformation) : Prop where
  known : ∀ member ∈ members, member.1 ∈ clauses
  group : members.lookup "GROUP" = some (.array (transformation.group.map Key.written))
  grouped : transformation.group ≠ []
  owned : ∀ key ∈ transformation.group, IsId key.dataset ∧ scope.Owns key
  apply : members.lookup "APPLY" = some (.array (transformation.rules.map Rule.written))
  fits : ∀ rule ∈ transformation.rules, rule.Fits scope
  distinct : (transformation.rules.map Rule.name).Nodup

/-- A grouping key is read from what is written for it, if the dataset owns it. -/
theorem readGroupKey_eq_ok_iff {item : Json} {key : Key} :
    readGroupKey scope item = .ok key ↔ item = key.written ∧ IsId key.dataset ∧ scope.Owns key := by
  cases item <;>
    simp only [readGroupKey, Key.written, Scope.resolve_eq_ok_iff, reduceCtorEq, false_and,
      Json.text.injEq]

/-- The grouping keys are read one by one. -/
theorem readGroupKeys_eq_ok_iff {items : List Json} {keys : List Key} :
    items.mapM (readGroupKey scope) = .ok keys ↔
      items = keys.map Key.written ∧ ∀ key ∈ keys, IsId key.dataset ∧ scope.Owns key := by
  rw [Checks.mapM_eq_ok_iff, ← Checks.forall₂_written_iff]
  simp only [readGroupKey_eq_ok_iff]

/-- Reading accepts exactly the objects that spell a transformation of the dataset. -/
theorem read_eq_ok_iff {raw : Json} {transformation : Transformation} :
    read scope raw = .ok transformation ↔
      ∃ members, raw = .object members ∧ Spells scope members transformation := by
  obtain ⟨group, rules⟩ := transformation
  simp only [read, Checks.bind_eq_ok, Checks.pure_eq_ok, members_eq_ok_iff, groupItems_eq_ok_iff,
    ruleItems_eq_ok_iff, readGroupKeys_eq_ok_iff, readRules_eq_ok_iff, Transformation.mk.injEq]
  constructor
  · rintro ⟨members, ⟨rfl, known⟩, _, ⟨grouping, some⟩, _, ⟨rfl, owned⟩, _, applied, _,
      ⟨rfl, each, distinct⟩, rfl, rfl⟩
    exact ⟨members, rfl, known, grouping, fun none => some (List.map_eq_nil_iff.mpr none), owned,
      applied, fun rule member => (each rule member).1, distinct⟩
  · rintro ⟨members, rfl, spelled⟩
    exact ⟨members, ⟨rfl, spelled.known⟩, _,
      ⟨spelled.group, fun none => spelled.grouped (List.map_eq_nil_iff.mp none)⟩, _,
      ⟨rfl, spelled.owned⟩, _, spelled.apply, _,
      ⟨rfl, fun rule member => ⟨spelled.fits rule member, List.not_mem_nil⟩, spelled.distinct⟩,
      rfl, rfl⟩

/-- A transformation that is read has the rule names that were found before. -/
theorem ruleNames_of_read {raw : Json} {transformation : Transformation}
    (accepted : read scope raw = .ok transformation) :
    ruleNames raw = .ok (transformation.rules.map Rule.name) := by
  simp only [read, Checks.bind_eq_ok, Checks.pure_eq_ok] at accepted
  obtain ⟨listed, found, _, _, _, _, items, applied, rules, read, rfl⟩ := accepted
  simp only [ruleNames, found, Checks.ok_bind, applied]
  exact readNames_of_readRules read

/-- The first grouping key of a transformation that is read names the dataset. -/
theorem groupDataset_of_read {raw : Json} {transformation : Transformation}
    (accepted : read scope raw = .ok transformation) :
    groupDataset raw = .ok scope.dataset := by
  obtain ⟨members, rfl, spelled⟩ := read_eq_ok_iff.mp accepted
  obtain ⟨group, rules⟩ := transformation
  cases group with
  | nil => exact absurd rfl spelled.grouped
  | cons key others =>
    obtain ⟨plain, owned⟩ := spelled.owned key List.mem_cons_self
    have found := members_eq_ok_iff.mpr ⟨rfl, spelled.known⟩
    have items := groupItems_eq_ok_iff.mpr ⟨spelled.group, by simp⟩
    have keyRead := Key.read_eq_ok_iff.mpr ⟨rfl, plain⟩
    simp only [List.map_cons, Key.written] at items
    simp only [groupDataset, found, Checks.ok_bind, items, List.head?_cons, keyRead]
    exact congrArg Except.ok owned.dataset

/-- What is looked at before a transformation is read agrees with what is read: the names of its
rules in their order, no two of them equal and each of them legal, and the dataset of its first
grouping key. Where the names cannot be found, the transformation cannot be read for any dataset. -/
theorem names_agree_with_read (scope : Scope) (raw : Json) :
    (∀ transformation, read scope raw = .ok transformation →
      ruleNames raw = .ok (transformation.rules.map Rule.name) ∧
        (transformation.rules.map Rule.name).Nodup ∧
        (∀ name ∈ transformation.rules.map Rule.name, name ≠ "" ∧ Key.separator ∉ name.toList) ∧
        groupDataset raw = .ok scope.dataset) ∧
      ∀ fault, ruleNames raw = .error fault → ∃ cause, read scope raw = .error cause := by
  constructor
  · intro transformation accepted
    obtain ⟨members, -, spelled⟩ := read_eq_ok_iff.mp accepted
    refine ⟨ruleNames_of_read accepted, spelled.distinct, ?_, groupDataset_of_read accepted⟩
    intro name listed
    obtain ⟨rule, inRules, rfl⟩ := List.mem_map.mp listed
    exact (spelled.fits rule inRules).name
  · intro fault unnamed
    cases result : read scope raw with
    | error cause => exact ⟨cause, rfl⟩
    | ok transformation =>
      have named := ruleNames_of_read result
      rw [unnamed] at named
      cases named

end Transformation

end CampusQuery
