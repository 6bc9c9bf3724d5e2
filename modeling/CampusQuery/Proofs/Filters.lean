import CampusQuery.Filter
import CampusQuery.Proofs.Keys
import CampusQuery.Proofs.Patterns

/-!
# What reading a filter accepts

One step of reading is inverted once: an accepted object is empty, or it has the one
member of an operator with a body that the operator takes. Everything else about the
filters that are read follows by induction along these steps.
-/

namespace CampusQuery

namespace Operator

/-- A name is that of at most one operator, and the operator is found by it. -/
theorem ofLabel?_eq_some_iff {text : String} {operator : Operator} :
    ofLabel? text = some operator ↔ text = operator.label := by
  apply Checks.find?_label_eq_some_iff
  intro operator
  cases operator with
  | relate relation => cases relation <;> decide
  | _ => decide

end Operator

namespace Filter

variable {scope : Scope}

/-- A comparison is read from an object with one key that the dataset owns. -/
theorem readComparison_eq_ok_iff {operator : Operator} {body : Json} {key : Key} {literal : Json} :
    readComparison scope operator body = .ok (key, literal) ↔
      body = .object [(key.display, literal)] ∧ IsId key.dataset ∧ scope.Owns key := by
  constructor
  · intro accepted
    unfold readComparison at accepted
    split at accepted
    · simp only [Checks.bind_eq_ok, Checks.pure_eq_ok, Scope.resolve_eq_ok_iff] at accepted
      obtain ⟨read, ⟨rfl, plain, owned⟩, same⟩ := accepted
      obtain ⟨rfl, rfl⟩ := Prod.mk.inj same
      exact ⟨rfl, plain, owned⟩
    · cases accepted
    · cases accepted
  · rintro ⟨rfl, plain, owned⟩
    have resolved := Scope.resolve_eq_ok_iff.mpr ⟨rfl, plain, owned⟩
    simp [readComparison, resolved]

/-- A comparison of numbers is read from one member: a numeric key with a number. -/
theorem readRelate_eq_ok_iff {relation : Relation} {body : Json} {filter : Filter} :
    readRelate scope relation body = .ok filter ↔ ∃ key numeral,
      body = .object [(key.display, .number numeral)] ∧ IsId key.dataset ∧ scope.Owns key ∧
        key.isNumeric = true ∧ filter = .relate relation key numeral.toBinary64 := by
  simp only [readRelate, Checks.bind_eq_ok, Prod.exists, readComparison_eq_ok_iff]
  constructor
  · rintro ⟨key, literal, ⟨rfl, plain, owned⟩, accepted⟩
    split at accepted
    · exact absurd accepted (by simp)
    · rename_i numeric
      split at accepted
      · rename_i numeral
        exact ⟨key, numeral, rfl, plain, owned, by simpa using numeric,
          (Checks.pure_eq_ok.mp accepted).symm⟩
      · exact absurd accepted Checks.throw_ne_ok
  · rintro ⟨key, numeral, rfl, plain, owned, numeric, rfl⟩
    exact ⟨key, _, ⟨rfl, plain, owned⟩, by simp [numeric]⟩

/-- A match is read from one member: a textual key with the text of a pattern. -/
theorem readLike_eq_ok_iff {body : Json} {filter : Filter} :
    readLike scope body = .ok filter ↔ ∃ key raw pattern,
      body = .object [(key.display, .text raw)] ∧ IsId key.dataset ∧ scope.Owns key ∧
        key.isTextual = true ∧ Pattern.read raw = .ok pattern ∧ filter = .like key pattern := by
  simp only [readLike, Checks.bind_eq_ok, Prod.exists, readComparison_eq_ok_iff]
  constructor
  · rintro ⟨key, literal, ⟨rfl, plain, owned⟩, accepted⟩
    split at accepted
    · exact absurd accepted (by simp)
    · rename_i textual
      split at accepted
      · rename_i raw
        simp only [Checks.bind_eq_ok, Checks.pure_eq_ok] at accepted
        obtain ⟨pattern, read, rfl⟩ := accepted
        exact ⟨key, raw, pattern, rfl, plain, owned, by simpa using textual, read, rfl⟩
      · exact absurd accepted Checks.throw_ne_ok
  · rintro ⟨key, raw, pattern, rfl, plain, owned, textual, read, rfl⟩
    exact ⟨key, _, ⟨rfl, plain, owned⟩, by simp [textual, read]⟩

/-- The parts of a condition are read one by one. -/
theorem readAll_eq_mapM (items : List Json) : readAll scope items = items.mapM (read scope) := by
  induction items with
  | nil => rfl
  | cons item rest inductionHypothesis => simp [readAll, inductionHypothesis, List.mapM_cons]

/-- The children of a conjunction or a disjunction are read from an array that is not
empty, each from its item. -/
theorem children_eq_ok_iff {name : String} {body : Json} {filter : Filter}
    {combine : List Filter → Filter} :
    (match body with
      | .array [] => Except.error (Fault.childrenEmpty name)
      | .array items => return combine (← readAll scope items)
      | _ => .error (.childrenNotArray name)) = .ok filter ↔
    ∃ items children, body = .array items ∧ items ≠ [] ∧
      List.Forall₂ (fun item child => read scope item = .ok child) items children ∧
        filter = combine children := by
  constructor
  · intro accepted
    split at accepted
    · cases accepted
    · rename_i items some
      simp only [Checks.bind_eq_ok, Checks.pure_eq_ok, readAll_eq_mapM,
        Checks.mapM_eq_ok_iff] at accepted
      obtain ⟨children, each, rfl⟩ := accepted
      exact ⟨items, children, rfl, fun none => some (none ▸ rfl), each, rfl⟩
    · cases accepted
  · rintro ⟨items, children, rfl, some, each, rfl⟩
    cases items with
    | nil => exact absurd rfl some
    | cons item rest =>
      have read := Checks.mapM_eq_ok_iff.mpr each
      rw [← readAll_eq_mapM] at read
      simp [read]

/-- One step of reading: what an accepted object looks like and what it becomes, given
what is read of the parts. -/
inductive ReadStep (scope : Scope) (readPart : Json → Filter → Prop) : Json → Filter → Prop where
  | all : ReadStep scope readPart (.object []) .all
  | and {items : List Json} {children : List Filter} (some : items ≠ [])
      (each : List.Forall₂ readPart items children) :
      ReadStep scope readPart (.object [("AND", .array items)]) (.and children)
  | or {items : List Json} {children : List Filter} (some : items ≠ [])
      (each : List.Forall₂ readPart items children) :
      ReadStep scope readPart (.object [("OR", .array items)]) (.or children)
  | not {body : Json} {child : Filter} (inner : readPart body child) :
      ReadStep scope readPart (.object [("NOT", body)]) (.not child)
  | relate {relation : Relation} {key : Key} {numeral : Numeral} (plain : IsId key.dataset)
      (owned : scope.Owns key) (numeric : key.isNumeric = true) :
      ReadStep scope readPart
        (.object [((Operator.relate relation).label, .object [(key.display, .number numeral)])])
        (.relate relation key numeral.toBinary64)
  | like {key : Key} {text : String} {pattern : Pattern} (plain : IsId key.dataset)
      (owned : scope.Owns key) (textual : key.isTextual = true)
      (pattern_read : Pattern.read text = .ok pattern) :
      ReadStep scope readPart (.object [("IS", .object [(key.display, .text text)])])
        (.like key pattern)

/-- Reading accepts exactly what a step of reading allows. -/
theorem read_eq_ok_iff {raw : Json} {filter : Filter} :
    read scope raw = .ok filter ↔
      ReadStep scope (fun part child => read scope part = .ok child) raw filter := by
  constructor
  · intro accepted
    unfold read at accepted
    split at accepted
    · obtain rfl := Except.ok.inj accepted
      exact .all
    · split at accepted
      · cases accepted
      · rename_i found
        obtain rfl := Operator.ofLabel?_eq_some_iff.mp found
        obtain ⟨items, children, rfl, some, each, rfl⟩ := children_eq_ok_iff.mp accepted
        exact .and some each
      · rename_i found
        obtain rfl := Operator.ofLabel?_eq_some_iff.mp found
        obtain ⟨items, children, rfl, some, each, rfl⟩ := children_eq_ok_iff.mp accepted
        exact .or some each
      · rename_i found
        obtain rfl := Operator.ofLabel?_eq_some_iff.mp found
        simp only [Checks.bind_eq_ok, Checks.pure_eq_ok] at accepted
        obtain ⟨child, inner, rfl⟩ := accepted
        exact .not inner
      · rename_i relation found
        obtain rfl := Operator.ofLabel?_eq_some_iff.mp found
        obtain ⟨key, numeral, rfl, plain, owned, numeric, rfl⟩ := readRelate_eq_ok_iff.mp accepted
        exact .relate plain owned numeric
      · rename_i found
        obtain rfl := Operator.ofLabel?_eq_some_iff.mp found
        obtain ⟨key, text, pattern, rfl, plain, owned, textual, patternRead, rfl⟩ :=
          readLike_eq_ok_iff.mp accepted
        exact .like plain owned textual patternRead
    · split at accepted <;> cases accepted
    · cases accepted
  · intro step
    have named (operator : Operator) : Operator.ofLabel? operator.label = some operator :=
      Operator.ofLabel?_eq_some_iff.mpr rfl
    cases step with
    | all => rfl
    | and some each =>
      unfold read
      rw [show Operator.ofLabel? "AND" = _ from named .and]
      exact children_eq_ok_iff.mpr ⟨_, _, rfl, some, each, rfl⟩
    | or some each =>
      unfold read
      rw [show Operator.ofLabel? "OR" = _ from named .or]
      exact children_eq_ok_iff.mpr ⟨_, _, rfl, some, each, rfl⟩
    | not inner =>
      unfold read
      rw [show Operator.ofLabel? "NOT" = _ from named .not]
      simp [inner]
    | @relate relation _ _ plain owned numeric =>
      unfold read
      rw [named (.relate relation)]
      exact readRelate_eq_ok_iff.mpr ⟨_, _, rfl, plain, owned, numeric, rfl⟩
    | like plain owned textual patternRead =>
      unfold read
      rw [show Operator.ofLabel? "IS" = _ from named .like]
      exact readLike_eq_ok_iff.mpr ⟨_, _, _, rfl, plain, owned, textual, patternRead, rfl⟩

/-- An item of the array of an operator is smaller than the object around it. -/
theorem sizeOf_item_lt {name : String} {item : Json} {items : List Json} (member : item ∈ items) :
    sizeOf item < sizeOf (Json.object [(name, .array items)]) := by
  have smaller := List.sizeOf_lt_of_mem member
  simp only [Json.object.sizeOf_spec, List.cons.sizeOf_spec, List.nil.sizeOf_spec,
    Prod.mk.sizeOf_spec, Json.array.sizeOf_spec]
  omega

/-- The body of an operator is smaller than the object around it. -/
theorem sizeOf_body_lt {name : String} {body : Json} :
    sizeOf body < sizeOf (Json.object [(name, body)]) := by
  simp only [Json.object.sizeOf_spec, List.cons.sizeOf_spec, List.nil.sizeOf_spec,
    Prod.mk.sizeOf_spec]
  omega

/-- Whatever one step of reading passes on from the parts to the whole holds of every
filter that is read. The parts are smaller than the whole. -/
theorem read_induction (property : Json → Filter → Prop)
    (step : ∀ {raw filter},
      ReadStep scope (fun part child => read scope part = .ok child ∧ property part child)
        raw filter → property raw filter)
    {raw : Json} {filter : Filter} (accepted : read scope raw = .ok filter) :
    property raw filter := by
  have inEach {items : List Json} {children : List Filter}
      (each : List.Forall₂ (fun part child => read scope part = .ok child) items children) :=
    (List.forall₂_and_left items children).mpr ⟨fun _ member => member, each⟩
  induction size : sizeOf raw using Nat.strongRecOn generalizing raw filter with
  | ind _ inductionHypothesis =>
    subst size
    apply step
    cases read_eq_ok_iff.mp accepted with
    | all => exact .all
    | and some each =>
      exact .and some ((inEach each).imp fun _ _ ⟨member, inner⟩ =>
        ⟨inner, inductionHypothesis _ (sizeOf_item_lt member) inner rfl⟩)
    | or some each =>
      exact .or some ((inEach each).imp fun _ _ ⟨member, inner⟩ =>
        ⟨inner, inductionHypothesis _ (sizeOf_item_lt member) inner rfl⟩)
    | not inner => exact .not ⟨inner, inductionHypothesis _ sizeOf_body_lt inner rfl⟩
    | relate plain owned numeric => exact .relate plain owned numeric
    | like plain owned textual patternRead => exact .like plain owned textual patternRead

end Filter

end CampusQuery
