import Mathlib.Data.List.Forall2

/-!
# Computations that can fail

Reading and evaluation are written as sequences of steps in `Except`. A sequence
succeeds exactly when its steps do, one after the other; the laws below take such a
sequence apart and put it together again. They say nothing about which step of a
failing sequence fails first.
-/

namespace CampusQuery.Checks

universe u v w
variable {ε : Type u} {α : Type v} {β : Type v} {γ : Type w}

/-- Two steps succeed exactly when the first does and the second does with its result. -/
@[simp] theorem bind_eq_ok {first : Except ε α} {next : α → Except ε β} {result : β} :
    (first >>= next) = .ok result ↔ ∃ value, first = .ok value ∧ next value = .ok result := by
  cases first <;> simp [bind, Except.bind]

/-- A pure value succeeds with itself. -/
@[simp] theorem pure_eq_ok {value result : α} :
    (pure value : Except ε α) = .ok result ↔ value = result := by
  simp [pure, Except.pure]

/-- A refusal is no success. -/
@[simp] theorem throw_ne_ok {cause : ε} {result : α} :
    (throw cause : Except ε α) ≠ .ok result := by
  simp [throw, throwThe, MonadExceptOf.throw]

/-- The steps after a refusal are not reached. -/
@[simp] theorem throw_bind {cause : ε} {next : α → Except ε β} :
    (throw cause >>= next : Except ε β) = throw cause := rfl

/-- After a success comes the next step. -/
@[simp] theorem ok_bind {value : α} {next : α → Except ε β} :
    ((Except.ok value : Except ε α) >>= next) = next value := rfl

/-- A computation succeeds where something of its result is seen. -/
theorem exists_ok_of_seen {first : Except ε α} {view : α → β} {seen : β}
    (succeeds : first.toOption.map view = some seen) :
    ∃ result, first = .ok result ∧ view result = seen := by
  cases first with
  | error => cases succeeds
  | ok result => exact ⟨result, rfl, Option.some.inj succeeds⟩

/-- No member has an unknown name exactly when the search for one finds nothing. -/
theorem unknown_eq_none_iff {members : List (String × γ)} {known : List String} :
    members.find? (fun member => !known.contains member.1) = none ↔
      ∀ member ∈ members, member.1 ∈ known := by
  simp [List.find?_eq_none]

/-- Where each item is found by its own label, a label stands for that item alone. -/
theorem find?_label_eq_some_iff {label : γ → String} {items : List γ}
    (own : ∀ item, items.find? (fun other => label other = label item) = some item)
    {text : String} {item : γ} :
    items.find? (fun other => label other = text) = some item ↔ text = label item := by
  constructor
  · intro found
    have named := List.find?_some found
    exact (of_decide_eq_true named).symm
  · rintro rfl
    exact own item

/-- Where no two items have one label, each of the items is found by its own. -/
theorem find?_of_mem {label : γ → String} {items : List γ} (distinct : (items.map label).Nodup)
    {item : γ} (member : item ∈ items) :
    items.find? (fun other => label other = label item) = some item := by
  induction items with
  | nil => cases member
  | cons first rest inductionHypothesis =>
    obtain ⟨new, restDistinct⟩ := List.nodup_cons.mp distinct
    rw [List.find?_cons]
    rcases List.mem_cons.mp member with rfl | later
    · simp
    · have different : label first ≠ label item := fun same =>
        new (List.mem_map.mpr ⟨item, later, same.symm⟩)
      simp only [different, decide_false]
      exact inductionHypothesis restDistinct later

/-- A list is processed with success exactly when every item is, item by item. -/
theorem mapM_eq_ok_iff {step : γ → Except ε α} {items : List γ} {results : List α} :
    items.mapM step = .ok results ↔
      List.Forall₂ (fun item result => step item = .ok result) items results := by
  induction items generalizing results with
  | nil =>
    rw [List.mapM_nil, pure_eq_ok, List.forall₂_nil_left_iff]
    exact eq_comm
  | cons item rest inductionHypothesis =>
    simp only [List.mapM_cons, bind_eq_ok, pure_eq_ok, List.forall₂_cons_left_iff,
      inductionHypothesis]
    constructor
    · rintro ⟨result, done, others, restDone, rfl⟩
      exact ⟨result, others, done, restDone, rfl⟩
    · rintro ⟨result, others, done, restDone, rfl⟩
      exact ⟨result, done, others, restDone, rfl⟩

/-- Steps that all succeed give the list of their results. -/
theorem mapM_eq_map {step : γ → Except ε α} {value : γ → α} {items : List γ}
    (each : ∀ item ∈ items, step item = .ok (value item)) :
    items.mapM step = .ok (items.map value) := by
  rw [mapM_eq_ok_iff, List.forall₂_map_right_iff, List.forall₂_same]
  exact each

/-- Items that each have a result have a list of results. -/
theorem exists_forall₂ {related : γ → α → Prop} {items : List γ}
    (each : ∀ item ∈ items, ∃ result, related item result) :
    ∃ results, List.Forall₂ related items results := by
  induction items with
  | nil => exact ⟨[], .nil⟩
  | cons item rest inductionHypothesis =>
    obtain ⟨result, done⟩ := each item List.mem_cons_self
    obtain ⟨others, restDone⟩ := inductionHypothesis fun other member =>
      each other (List.mem_cons_of_mem item member)
    exact ⟨result :: others, .cons done restDone⟩

/-- In related lists everything on the right is related to something on the left. -/
theorem exists_of_mem_right {related : γ → α → Prop} {items : List γ} {results : List α}
    (each : List.Forall₂ related items results) {result : α} (member : result ∈ results) :
    ∃ item ∈ items, related item result := by
  induction each with
  | nil => cases member
  | cons first _ inductionHypothesis =>
    rcases List.mem_cons.mp member with rfl | later
    · exact ⟨_, List.mem_cons_self, first⟩
    · obtain ⟨item, inRest, found⟩ := inductionHypothesis later
      exact ⟨item, List.mem_cons_of_mem _ inRest, found⟩

/-- In related lists everything on the left is related to something on the right. -/
theorem exists_of_mem_left {related : γ → α → Prop} {items : List γ} {results : List α}
    (each : List.Forall₂ related items results) {item : γ} (member : item ∈ items) :
    ∃ result ∈ results, related item result := by
  induction each with
  | nil => cases member
  | cons first _ inductionHypothesis =>
    rcases List.mem_cons.mp member with rfl | later
    · exact ⟨_, List.mem_cons_self, first⟩
    · obtain ⟨result, inRest, found⟩ := inductionHypothesis later
      exact ⟨result, List.mem_cons_of_mem _ inRest, found⟩

/-- In related lists each pair has what everything on the right has. -/
theorem forall₂_and_right {related : γ → α → Prop} {property : α → Prop} {items : List γ}
    {results : List α} (each : List.Forall₂ related items results)
    (all : ∀ result ∈ results, property result) :
    List.Forall₂ (fun item result => related item result ∧ property result) items results := by
  induction each with
  | nil => exact .nil
  | cons first _ inductionHypothesis =>
    obtain ⟨head, rest⟩ := List.forall_mem_cons.mp all
    exact .cons ⟨first, head⟩ (inductionHypothesis rest)

/-- In related lists what stands at a position is related to what stands there. -/
theorem exists_getElem?_left {related : γ → α → Prop} {items : List γ} {results : List α}
    (each : List.Forall₂ related items results) {position : Nat} {result : α}
    (found : results[position]? = some result) :
    ∃ item, items[position]? = some item ∧ related item result := by
  induction each generalizing position with
  | nil => cases found
  | cons first _ inductionHypothesis =>
    cases position with
    | zero =>
      obtain rfl := Option.some.inj found
      exact ⟨_, rfl, first⟩
    | succ position => exact inductionHypothesis found

/-- Related lists have the same images where related items have. -/
theorem map_eq_map_of_forall₂ {related : γ → α → Prop} {items : List γ} {results : List α}
    {left : γ → β} {right : α → β} (each : List.Forall₂ related items results)
    (same : ∀ item result, related item result → left item = right result) :
    items.map left = results.map right := by
  induction each with
  | nil => rfl
  | cons first _ inductionHypothesis =>
    rw [List.map_cons, List.map_cons, same _ _ first, inductionHypothesis]

/-- Two passes over a list relate its items to the results of the second. -/
theorem forall₂_comp {first : γ → α → Prop} {second : α → β → Prop} {items : List γ}
    {middle : List α} {results : List β} (firstEach : List.Forall₂ first items middle)
    (secondEach : List.Forall₂ second middle results) :
    List.Forall₂ (fun item result => ∃ between, first item between ∧ second between result)
      items results := by
  induction firstEach generalizing results with
  | nil =>
    cases secondEach
    exact .nil
  | cons head _ inductionHypothesis =>
    cases secondEach with
    | cons next others => exact .cons ⟨_, head, next⟩ (inductionHypothesis others)

/-- Items in the written form of fitting parts are the written form of a list of them. -/
theorem forall₂_written_iff {written : α → γ} {fits : α → Prop} {items : List γ} {parts : List α} :
    List.Forall₂ (fun item part => item = written part ∧ fits part) items parts ↔
      items = parts.map written ∧ ∀ part ∈ parts, fits part := by
  constructor
  · intro each
    induction each with
    | nil => simp
    | cons first _ inductionHypothesis =>
      obtain ⟨rfl, fit⟩ := first
      obtain ⟨rfl, others⟩ := inductionHypothesis
      exact ⟨rfl, List.forall_mem_cons.mpr ⟨fit, others⟩⟩
  · rintro ⟨rfl, each⟩
    rw [List.forall₂_map_left_iff, List.forall₂_same]
    exact fun part member => ⟨rfl, each part member⟩

/-- If every item is the written form of a fitting part, so is the list. -/
theorem exists_written {written : α → γ} {fits : α → Prop} {items : List γ}
    (each : ∀ item ∈ items, ∃ part, item = written part ∧ fits part) :
    ∃ parts : List α, items = parts.map written ∧ ∀ part ∈ parts, fits part := by
  obtain ⟨parts, done⟩ := exists_forall₂ each
  exact ⟨parts, forall₂_written_iff.mp done⟩

/-- If every item can be processed, so can the list. -/
theorem mapM_exists {step : γ → Except ε α} {items : List γ}
    (each : ∀ item ∈ items, ∃ result, step item = .ok result) :
    ∃ results, items.mapM step = .ok results := by
  obtain ⟨results, done⟩ := exists_forall₂ each
  exact ⟨results, mapM_eq_ok_iff.mpr done⟩

/-- What every success of a step has, every result of the list has. -/
theorem mapM_results {step : γ → Except ε α} {items : List γ} {results : List α}
    {property : α → Prop} (done : items.mapM step = .ok results)
    (each : ∀ item ∈ items, ∀ result, step item = .ok result → property result) :
    ∀ result ∈ results, property result := by
  intro result member
  obtain ⟨item, inItems, found⟩ := exists_of_mem_right (mapM_eq_ok_iff.mp done) member
  exact each item inItems result found

/-- A list is read exactly when every item can be, and what is read is what the items
give, one after the other. -/
theorem mapM_eq_some_iff {read : γ → Option α} {items : List γ} {results : List α} :
    items.mapM read = some results ↔
      (∀ item ∈ items, (read item).isSome = true) ∧ items.filterMap read = results := by
  induction items generalizing results with
  | nil => simp
  | cons item rest inductionHypothesis =>
    rw [List.mapM_cons, List.forall_mem_cons, List.filterMap_cons]
    cases found : read item with
    | none => simp
    | some result =>
      simp only [Option.bind_eq_bind, Option.bind_some, Option.bind_eq_some_iff,
        inductionHypothesis, Option.pure_def, Option.some.injEq, Option.isSome_some, true_and]
      constructor
      · rintro ⟨others, ⟨readable, rfl⟩, rfl⟩
        exact ⟨readable, rfl⟩
      · rintro ⟨readable, rfl⟩
        exact ⟨_, ⟨readable, rfl⟩, rfl⟩

/-- Items that are each read as a result are read as the list of the results. -/
theorem mapM_eq_some_of_forall₂ {read : γ → Option α} {items : List γ} {results : List α}
    (each : List.Forall₂ (fun item result => read item = some result) items results) :
    items.mapM read = some results := by
  induction each with
  | nil => rfl
  | cons first _ inductionHypothesis => simp [List.mapM_cons, first, inductionHypothesis]

/-- Where every item is read, all of them are. -/
theorem mapM_eq_some_map {read : γ → Option α} {value : γ → α} {items : List γ}
    (each : ∀ item ∈ items, read item = some (value item)) :
    items.mapM read = some (items.map value) := by
  apply mapM_eq_some_of_forall₂
  rw [List.forall₂_map_right_iff, List.forall₂_same]
  exact each

/-- A list is read exactly when every item can be. -/
theorem mapM_isSome_iff {read : γ → Option α} {items : List γ} :
    (items.mapM read).isSome = true ↔ ∀ item ∈ items, (read item).isSome = true := by
  rw [Option.isSome_iff_exists]
  simp only [mapM_eq_some_iff, exists_and_left, exists_eq', and_true]

/-- Items in another sequence are read to the same results in another sequence, or in
neither sequence. -/
theorem mapM_perm (read : γ → Option α) {items others : List γ} (permuted : items.Perm others) :
    Option.Rel List.Perm (items.mapM read) (others.mapM read) := by
  have same : (∀ item ∈ items, (read item).isSome = true) ↔
      ∀ item ∈ others, (read item).isSome = true :=
    forall_congr' fun item => imp_congr_left permuted.mem_iff
  by_cases readable : ∀ item ∈ items, (read item).isSome = true
  · have itemsRead := mapM_eq_some_iff.mpr ⟨readable, rfl⟩
    have othersRead := mapM_eq_some_iff.mpr ⟨same.mp readable, rfl⟩
    rw [itemsRead, othersRead]
    exact .some (permuted.filterMap read)
  · have itemsUnread : items.mapM read = none := by
      cases done : items.mapM read with
      | none => rfl
      | some results => exact absurd (mapM_eq_some_iff.mp done).1 readable
    have othersUnread : others.mapM read = none := by
      cases done : others.mapM read with
      | none => rfl
      | some results => exact absurd (same.mpr (mapM_eq_some_iff.mp done).1) readable
    rw [itemsUnread, othersUnread]
    exact .none

/-- A check of every item succeeds exactly when each item passes. -/
theorem forM_eq_ok_iff {check : γ → Except ε PUnit} {items : List γ} :
    items.forM check = .ok ⟨⟩ ↔ ∀ item ∈ items, check item = .ok ⟨⟩ := by
  induction items with
  | nil => simp
  | cons item rest inductionHypothesis =>
    change (check item >>= fun _ => rest.forM check) = .ok ⟨⟩ ↔ _
    rw [bind_eq_ok, inductionHypothesis, List.forall_mem_cons]
    constructor
    · rintro ⟨⟨⟩, passed, others⟩
      exact ⟨passed, others⟩
    · rintro ⟨passed, others⟩
      exact ⟨⟨⟩, passed, others⟩

variable {related : α → β → Prop} {left : α} {right : Option β}

/-- A clause that is present is related to a part that is present. -/
theorem rel_some_iff :
    Option.Rel related (some left) right ↔ ∃ part, right = some part ∧ related left part := by
  constructor
  · rintro ⟨holds⟩
    exact ⟨_, rfl, holds⟩
  · rintro ⟨part, rfl, holds⟩
    exact .some holds

/-- Every clause that is present is related to some part. -/
theorem exists_of_rel {clause : Option α} (given : Option.Rel related clause right) :
    ∀ raw ∈ clause, ∃ part, related raw part := by
  rintro raw ⟨⟩
  obtain ⟨part, -, holds⟩ := rel_some_iff.mp given
  exact ⟨part, holds⟩

/-- A part that is present comes from a clause that is present. -/
theorem rel_some_right_iff {left : Option α} {part : β} :
    Option.Rel related left (some part) ↔ ∃ clause, left = some clause ∧ related clause part := by
  constructor
  · rintro ⟨holds⟩
    exact ⟨_, rfl, holds⟩
  · rintro ⟨clause, rfl, holds⟩
    exact .some holds

/-- A clause that is missing is related to a missing part alone. -/
theorem rel_none_iff : Option.Rel related none right ↔ right = none := by
  constructor
  · rintro ⟨⟩
    rfl
  · rintro rfl
    exact .none

/-- Related parts, or two missing ones, lead to the same where every two related parts do. -/
theorem bind_eq_bind_of_rel {δ : Type u} {left : Option α} {first : α → Option δ}
    {second : β → Option δ} (given : Option.Rel related left right)
    (same : ∀ one other, related one other → first one = second other) :
    left.bind first = right.bind second := by
  cases given with
  | none => rfl
  | some holds => exact same _ _ holds

/-- A part that is missing comes from a missing clause alone. -/
theorem rel_none_right_iff {left : Option α} : Option.Rel related left none ↔ left = none := by
  constructor
  · rintro ⟨⟩
    rfl
  · rintro rfl
    exact .none

end CampusQuery.Checks
