import CampusQuery.Proofs.Rewriting

/-!
# Derivations of conditions

A derivation of a condition is given as a tree of its own: every node is one step of the
grammar and carries what the step needs, so that nothing underivable can be built. Such a
tree is written as a JSON value and is turned into a filter. Reading goes the other way
round, and it accepts nothing else: it reads every written derivation as the filter of the
derivation, and whatever it reads is written by one. A part that stands in the place of a
condition is refused together with everything around it.
-/

namespace CampusQuery

namespace Query

/-- A field of the dataset that holds values of one type. The identifier of the dataset
can stand in front of it. -/
structure NamedField (scope : Scope) (type : FieldType) where
  field : Field
  plain : IsId scope.dataset
  belongs : field ∈ Field.ofKind scope.kind
  fits : field.holds = type

namespace NamedField

variable {scope : Scope} {type : FieldType}

/-- The name of the field as it is written in a condition. -/
def name (named : NamedField scope type) : String := scope.dataset ++ "_" ++ named.field.label

/-- The key of a named field in the dataset. -/
def key (named : NamedField scope type) : Key := ⟨scope.dataset, named.field⟩

/-- The dataset owns the key of a named field. -/
theorem owned (named : NamedField scope type) : scope.Owns named.key :=
  ⟨rfl, Field.mem_ofKind_iff.mp named.belongs⟩

/-- A key of the dataset is that of a named field. -/
theorem exists_key {key : Key} (plain : IsId key.dataset) (owned : scope.Owns key)
    (fits : key.field.holds = type) : ∃ named : NamedField scope type, named.key = key := by
  obtain ⟨dataset, field⟩ := key
  obtain rfl : dataset = scope.dataset := owned.dataset
  exact ⟨⟨field, plain, Field.mem_ofKind_iff.mpr owned.kind, fits⟩, rfl⟩

end NamedField

/-- A derivation of a condition, step by step. -/
inductive Derivation (scope : Scope) where
  | all
  | and (first : Derivation scope) (rest : List (Derivation scope))
  | or (first : Derivation scope) (rest : List (Derivation scope))
  | not (inner : Derivation scope)
  | compare (relation : Relation) (named : NamedField scope .numeric) (numeral : Numeral)
  /-- A single star is the one in front, so that no text has two patterns. -/
  | like (named : NamedField scope .textual) (pattern : Pattern)
      (plain : Pattern.star ∉ pattern.body)
      (single : pattern.trailing = true → pattern.body = [] → pattern.leading = true)

namespace Derivation

variable {scope : Scope}

mutual

/-- The JSON value that is derived. -/
def written : Derivation scope → Json
  | .all => .object []
  | .and first rest => .object [("AND", .array (written first :: writtenEach rest))]
  | .or first rest => .object [("OR", .array (written first :: writtenEach rest))]
  | .not inner => .object [("NOT", written inner)]
  | .compare relation named numeral =>
    .object [((Operator.relate relation).label, .object [(named.name, .number numeral)])]
  | .like named pattern _ _ =>
    .object [("IS", .object [(named.name, .text (String.ofList pattern.written))])]
termination_by structural derivation => derivation

/-- The JSON values of several derivations, in order. -/
def writtenEach : List (Derivation scope) → List Json
  | [] => []
  | first :: rest => written first :: writtenEach rest
termination_by structural derivations => derivations

end

mutual

/-- The filter that is derived, with one node for each step. -/
def tree : Derivation scope → Filter
  | .all => .all
  | .and first rest => .and (tree first :: treeEach rest)
  | .or first rest => .or (tree first :: treeEach rest)
  | .not inner => .not (tree inner)
  | .compare relation named numeral => .relate relation named.key numeral.toBinary64
  | .like named pattern _ _ => .like named.key pattern
termination_by structural derivation => derivation

/-- The filters of several derivations, in order. -/
def treeEach : List (Derivation scope) → List Filter
  | [] => []
  | first :: rest => tree first :: treeEach rest
termination_by structural derivations => derivations

end

mutual

/-- The number of steps. -/
def steps : Derivation scope → Nat
  | .all | .compare .. | .like .. => 1
  | .and first rest | .or first rest => 1 + (steps first + stepsEach rest)
  | .not inner => 1 + steps inner
termination_by structural derivation => derivation

/-- The number of steps in several derivations. -/
def stepsEach : List (Derivation scope) → Nat
  | [] => 0
  | first :: rest => steps first + stepsEach rest
termination_by structural derivations => derivations

end

mutual

/-- The filter has as many nodes as the derivation has steps. -/
theorem size_tree (derivation : Derivation scope) : derivation.tree.size = derivation.steps := by
  cases derivation with
  | all => rfl
  | and first rest =>
    rw [tree, Filter.size, Filter.sizes, size_tree first, sizes_treeEach rest, steps]
  | or first rest =>
    rw [tree, Filter.size, Filter.sizes, size_tree first, sizes_treeEach rest, steps]
  | not inner => rw [tree, Filter.size, size_tree inner, steps]
  | compare => rfl
  | like => rfl
termination_by structural derivation

/-- The trees of derivations have as many nodes as these have steps. -/
theorem sizes_treeEach (derivations : List (Derivation scope)) :
    Filter.sizes (treeEach derivations) = stepsEach derivations := by
  cases derivations with
  | nil => rfl
  | cons first rest =>
    rw [treeEach, Filter.sizes, size_tree first, sizes_treeEach rest, stepsEach]
termination_by structural derivations

end

mutual

/-- What a derivation writes is read as the filter of the derivation. -/
theorem read_written (derivation : Derivation scope) :
    Filter.read scope derivation.written = .ok derivation.tree := by
  rw [Filter.read_eq_ok_iff]
  cases derivation with
  | all => exact .all
  | and first rest =>
    exact .and (List.cons_ne_nil _ _) (.cons (read_written first) (read_writtenEach rest))
  | or first rest =>
    exact .or (List.cons_ne_nil _ _) (.cons (read_written first) (read_writtenEach rest))
  | not inner => exact .not (read_written inner)
  | compare relation named numeral =>
    have isNumeric : named.key.isNumeric = true := decide_eq_true named.fits
    exact .relate named.plain named.owned isNumeric
  | like named pattern plain single =>
    have isTextual : named.key.isTextual = true := decide_eq_true named.fits
    have patternRead : Pattern.read (String.ofList pattern.written) = .ok pattern :=
      Pattern.read_eq_ok_iff.mpr ⟨String.toList_ofList, plain, single⟩
    exact .like named.plain named.owned isTextual patternRead
termination_by structural derivation

/-- What is written for each derivation is read as its tree. -/
theorem read_writtenEach (derivations : List (Derivation scope)) :
    List.Forall₂ (fun part child => Filter.read scope part = .ok child)
      (writtenEach derivations) (treeEach derivations) := by
  cases derivations with
  | nil => exact .nil
  | cons first rest => exact .cons (read_written first) (read_writtenEach rest)
termination_by structural derivations

end

/-- Parts and children that are derived one by one are derived in a list. -/
theorem exists_each {items : List Json} {children : List Filter}
    (each : List.Forall₂ (fun part child => Filter.read scope part = .ok child ∧
      ∃ derivation : Derivation scope, derivation.written = part ∧ derivation.tree = child)
      items children) :
    ∃ derivations : List (Derivation scope),
      writtenEach derivations = items ∧ treeEach derivations = children := by
  induction each with
  | nil => exact ⟨[], rfl, rfl⟩
  | cons head _ inductionHypothesis =>
    obtain ⟨-, first, rfl, rfl⟩ := head
    obtain ⟨rest, rfl, rfl⟩ := inductionHypothesis
    exact ⟨first :: rest, rfl, rfl⟩

/-- Whatever is read is written by a derivation, of which it is the filter. -/
theorem exists_of_read {raw : Json} {filter : Filter}
    (accepted : Filter.read scope raw = .ok filter) :
    ∃ derivation : Derivation scope, derivation.written = raw ∧ derivation.tree = filter := by
  refine Filter.read_induction (fun raw filter => ∃ derivation : Derivation scope,
    derivation.written = raw ∧ derivation.tree = filter) ?_ accepted
  intro raw filter step
  cases step with
  | all => exact ⟨.all, rfl, rfl⟩
  | and some each =>
    obtain ⟨derivations, rfl, rfl⟩ := exists_each each
    cases derivations with
    | nil => exact absurd rfl some
    | cons first rest => exact ⟨.and first rest, rfl, rfl⟩
  | or some each =>
    obtain ⟨derivations, rfl, rfl⟩ := exists_each each
    cases derivations with
    | nil => exact absurd rfl some
    | cons first rest => exact ⟨.or first rest, rfl, rfl⟩
  | not inner =>
    obtain ⟨-, derivation, rfl, rfl⟩ := inner
    exact ⟨.not derivation, rfl, rfl⟩
  | @relate relation key numeral plain owned numeric =>
    obtain ⟨named, rfl⟩ := NamedField.exists_key plain owned (of_decide_eq_true numeric)
    exact ⟨.compare relation named numeral, rfl, rfl⟩
  | @like key text pattern plain owned textual patternRead =>
    obtain ⟨named, rfl⟩ := NamedField.exists_key plain owned (of_decide_eq_true textual)
    obtain ⟨joined, body, single⟩ := Pattern.read_eq_ok_iff.mp patternRead
    refine ⟨.like named pattern body single, ?_, rfl⟩
    rw [written, ← joined, String.ofList_toList]
    rfl

end Derivation

/-- A part stands in the place of a condition: it is the whole, or it does so in a child
of the whole. -/
inductive Occurs (part : Json) : Json → Prop where
  | here : Occurs part part
  | inside (junction : Junction) {item : Json} {items : List Json} (member : item ∈ items)
      (inner : Occurs part item) : Occurs part (junction.combine items)
  | negated {body : Json} (inner : Occurs part body) : Occurs part (negate body)

variable {scope : Scope}

/-- Of a condition every part is one. -/
theorem Occurs.isCondition {part raw : Json} (occurs : Occurs part raw)
    (derived : IsCondition scope raw) : IsCondition scope part := by
  induction occurs with
  | here => exact derived
  | inside junction member _ inductionHypothesis =>
    obtain ⟨-, each⟩ := isCondition_combine_iff.mp derived
    exact inductionHypothesis (each _ member)
  | negated _ inductionHypothesis =>
    exact inductionHypothesis (isCondition_negate_iff.mp derived)

/-- A filter is read exactly from the conditions of the grammar. -/
theorem read_exists_iff_isCondition {raw : Json} :
    (∃ filter, Filter.read scope raw = .ok filter) ↔ IsCondition scope raw := by
  constructor
  · rintro ⟨filter, accepted⟩
    exact isCondition_of_read accepted
  · intro derived
    exact derived.exists_filter

/-- What is no condition is refused. -/
theorem read_refused {raw : Json} (underivable : ¬IsCondition scope raw) :
    ∃ fault, Filter.read scope raw = .error fault := by
  cases outcome : Filter.read scope raw with
  | ok filter => exact absurd (isCondition_of_read outcome) underivable
  | error fault => exact ⟨fault, rfl⟩

/-- Reading accepts the grammar of conditions and nothing else. What is read is the filter
of a derivation of the value, with as many nodes as the derivation has steps, and one part
at any depth that is no condition is a fault of the whole. -/
theorem read_derivation (scope : Scope) (raw : Json) :
    ((∃ filter, Filter.read scope raw = .ok filter) ↔ IsCondition scope raw) ∧
      (∀ filter, Filter.read scope raw = .ok filter ↔
        ∃ derivation : Derivation scope, derivation.written = raw ∧ derivation.tree = filter ∧
          filter.size = derivation.steps) ∧
      ∀ part, Occurs part raw → ¬IsCondition scope part →
        ∃ fault, Filter.read scope raw = .error fault := by
  refine ⟨read_exists_iff_isCondition, ?_, ?_⟩
  · intro filter
    constructor
    · intro accepted
      obtain ⟨derivation, rfl, rfl⟩ := Derivation.exists_of_read accepted
      exact ⟨derivation, rfl, rfl, derivation.size_tree⟩
    · rintro ⟨derivation, rfl, rfl, -⟩
      exact derivation.read_written
  · intro part occurs underivable
    exact read_refused fun derived => underivable (occurs.isCondition derived)

end Query

/-- The departments with a name that has a star inside it. -/
def Sample.starred : Json := .object [("IS", .object [("courses_dept", .text "ma*th")])]

/-- Five nested conditions are derived in as many steps. A star two levels down refuses
the negation around it. -/
theorem starred_refused :
    (∃ derivation : Query.Derivation Sample.dataset.scope,
      derivation.written = Sample.guarded ∧ derivation.steps = 5) ∧
    ∃ fault, Filter.read Sample.dataset.scope
      (Query.negate (Junction.disjunction.combine [Sample.low, Sample.starred])) =
        .error fault := by
  constructor
  · obtain ⟨filter, accepted, size⟩ : ∃ filter,
        Filter.read Sample.dataset.scope Sample.guarded = .ok filter ∧ filter.size = 5 :=
      Checks.exists_ok_of_seen (by decide +kernel)
    obtain ⟨-, derived, -⟩ := Query.read_derivation Sample.dataset.scope Sample.guarded
    obtain ⟨derivation, written, -, counted⟩ := (derived filter).mp accepted
    exact ⟨derivation, written, counted.symm.trans size⟩
  · have underivable : ¬Query.IsCondition Sample.dataset.scope Sample.starred := by
      intro derived
      obtain ⟨filter, accepted⟩ := derived.exists_filter
      have refused : Filter.read Sample.dataset.scope Sample.starred =
          .error (.innerStar "ma*th") := rfl
      rw [refused] at accepted
      cases accepted
    have occurs : Query.Occurs Sample.starred
        (Query.negate (Junction.disjunction.combine [Sample.low, Sample.starred])) :=
      .negated (.inside .disjunction (by simp) .here)
    exact (Query.read_derivation _ _).2.2 _ occurs underivable

end CampusQuery
