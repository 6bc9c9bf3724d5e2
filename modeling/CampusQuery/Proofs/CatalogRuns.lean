import CampusQuery.Memory
import CampusQuery.Proofs.Catalogs
import CampusQuery.Proofs.Surface

/-!
# A catalog is a map over every run

The replies of a run tell what each catalog holds: under an identifier stands the dataset of
the last successful registration, unless a successful removal came after it. One step changes
this for the place of its handle and the identifier that it names, and a step that fails
changes nothing. So after every sequence of steps, through whichever handles, the next reply
can be told from the replies before it. A snapshot tells what the replies told when it was
taken.
-/

namespace CampusQuery

namespace Change

variable {α β : Type}

/-- A change goes on from the registry that the first part of it leaves. -/
theorem on_bind (first : Change α) (next : α → Change β) (catalog : Catalog) :
    (first >>= next).on catalog =
      match first.on catalog with
      | (.ok value, left) => (next value).on left
      | (.error cause, left) => (.error cause, left) := by
  -- The second part runs in the state of the first one, whatever came of it.
  change (first.run >>= ExceptT.bindCont next).run catalog = _
  rw [StateT.run_bind, on]
  generalize StateT.run (ExceptT.run first) catalog = outcome
  obtain ⟨_ | _, left⟩ := outcome <;> rfl

/-- A change that is a result leaves the catalog as it is. -/
theorem on_ofExcept (result : Except CatalogError α) (catalog : Catalog) :
    (ofExcept result : Change α).on catalog = (result, catalog) := by
  cases result <;> rfl

/-- A change that reads the catalog leaves it as it is. -/
theorem on_get (catalog : Catalog) : (get : Change Catalog).on catalog = (.ok catalog, catalog) :=
  rfl

/-- An edit changes the catalog and has no result. -/
theorem on_modify (edit : Catalog → Catalog) (catalog : Catalog) :
    (modify edit : Change PUnit).on catalog = (.ok ⟨⟩, edit catalog) :=
  rfl

/-- Registering where the registry is leaves the catalog with the dataset, or the registry as
it was. -/
theorem on_add (dataset : Dataset) (catalog : Catalog) :
    (add dataset).on catalog =
      match catalog.add dataset with
      | .ok changed => (.ok changed.ids, changed)
      | .error cause => (.error cause, catalog) := by
  simp only [add, Catalog.add, on_bind, on_ofExcept]
  cases Catalog.checkId dataset.id with
  | error cause => rfl
  | ok checked =>
    dsimp only
    by_cases vacant : dataset.size = 0
    · rw [if_pos vacant, if_pos vacant]
      rfl
    · rw [if_neg vacant, if_neg vacant]
      simp only [on_bind, on_get]
      by_cases taken : catalog.datasets.contains dataset.id = true
      · rw [if_pos taken, if_pos taken]
        rfl
      · rw [if_neg taken, if_neg taken]
        rfl

/-- Removing where the registry is leaves the catalog without the dataset. Where there was
none, the removal that came before the failure has changed nothing. -/
theorem on_remove (id : String) (catalog : Catalog) :
    (remove id).on catalog =
      match catalog.remove id with
      | .ok changed => (.ok id, changed)
      | .error cause => (.error cause, catalog) := by
  simp only [remove, Catalog.remove, on_bind, on_ofExcept, on_get]
  cases Catalog.checkId id with
  | error cause => rfl
  | ok checked =>
    simp only [on_modify]
    cases found : catalog.datasets.get? id with
    | some dataset =>
      rw [if_pos (NameMap.contains_of_found found)]
      rfl
    | none =>
      -- The entry was erased before the failure, but there was none.
      rw [if_neg (NameMap.not_contains_of_absent found), NameMap.erase_of_absent found]
      rfl

end Change

/-- What a step leaves under an identifier of a place, if it has succeeded in changing what
stands there. -/
def Event.leaves? (place : Nat) (id : String) : Event → Option (Option Dataset)
  | ⟨.through handle (.add dataset), .added _⟩ =>
    if place = handle.place ∧ id = dataset.id then some (some dataset) else none
  | ⟨.through handle (.remove removed), .removed _⟩ =>
    if place = handle.place ∧ id = removed then some none else none
  | _ => none

/-- What stands under an identifier of a place after a history: what the last step left there
that changed it, and nothing if there was no such step. -/
def registered? (history : List Event) (place : Nat) (id : String) : Option Dataset :=
  (history.filterMap (Event.leaves? place id)).getLast?.join

/-- The replies to an action through a handle of a catalog with the registered datasets. -/
inductive Action.Replies (handle : Handle) (registered : String → Option Dataset) :
    Action → Reply → Prop where
  | cloned (clone : Handle) (same : clone.place = handle.place) :
    Replies handle registered .clone (.cloned clone)
  | invalid (dataset : Dataset) (invalid : ¬ IsId dataset.id) :
    Replies handle registered (.add dataset) (.failed (.invalidId dataset.id))
  | vacant (dataset : Dataset) (valid : IsId dataset.id) (vacant : dataset.records.toList = []) :
    Replies handle registered (.add dataset) (.failed (.noRecords dataset.id))
  | duplicate (dataset : Dataset) (valid : IsId dataset.id)
      (inhabited : dataset.records.toList ≠ []) (present : (registered dataset.id).isSome = true) :
    Replies handle registered (.add dataset) (.failed (.duplicateId dataset.id))
  | added (dataset : Dataset) (valid : IsId dataset.id) (inhabited : dataset.records.toList ≠ [])
      (free : registered dataset.id = none) (ids : List String)
      (lists : Lists (fun id => if id = dataset.id then some dataset else registered id) ids) :
    Replies handle registered (.add dataset) (.added ids)
  | unremovable (id : String) (invalid : ¬ IsId id) :
    Replies handle registered (.remove id) (.failed (.invalidId id))
  | missing (id : String) (valid : IsId id) (free : registered id = none) :
    Replies handle registered (.remove id) (.failed (.notFound id))
  | removed (id : String) (valid : IsId id) (present : (registered id).isSome = true) :
    Replies handle registered (.remove id) (.removed id)
  | listed (ids : List String) (lists : Lists registered ids) (summaries : List Summary)
      (described : List.Forall₂ (Summary.Describes registered) ids summaries) :
    Replies handle registered .list (.listed summaries)
  | contained (id : String) :
    Replies handle registered (.contains id) (.contained (registered id).isSome)
  | taken (number : Nat) : Replies handle registered .snapshot (.taken number)

/-- The snapshot of a number tells of the registered datasets. -/
structure Memory.Tells (memory : Memory) (number : Nat) (registered : String → Option Dataset) :
    Prop where
  find : ∀ id, (memory.perform (.find number id)).1 = .found (registered id)
  count : ∃ ids, Lists registered ids ∧ (memory.perform (.count number)).1 = .counted ids.length

/-- The memory is what the history tells, and so are its next replies. -/
structure Memory.Accords (memory : Memory) (history : List Event) : Prop where
  registered : ∀ place id,
    (memory.registry place).datasets.get? id = registered? history place id
  sound : ∀ place, (memory.registry place).Sound
  replies : ∀ handle action, Action.Replies handle (registered? history handle.place) action
    (memory.perform (.through handle action)).1
  failed : ∀ request cause, (memory.perform request).1 = .failed cause →
    (memory.perform request).2 = memory
  snapshots : ∀ handle number, (memory.perform (.through handle .snapshot)).1 = .taken number →
    ∀ later, ((memory.perform (.through handle .snapshot)).2.after later).Tells number
      (registered? history handle.place)

namespace Memory

/-- Writing what a place has changes nothing. -/
theorem write_self (memory : Memory) (place : Nat) :
    memory.write place (memory.registry place) = memory := by
  have same : (memory.write place (memory.registry place)).registry = memory.registry := by
    funext other
    by_cases here : other = place <;> simp [write, here]
  cases memory
  simp only [write] at same ⊢
  rw [same]

/-- Registering through a handle replaces the registry at its place, or fails and leaves the
memory as it was. -/
theorem perform_add (memory : Memory) (handle : Handle) (dataset : Dataset) :
    memory.perform (.through handle (.add dataset)) =
      match (memory.registry handle.place).add dataset with
      | .ok changed => (.added changed.ids, memory.write handle.place changed)
      | .error cause => (.failed cause, memory) := by
  simp only [perform, act, change, Change.on_add]
  cases (memory.registry handle.place).add dataset with
  | ok changed => rfl
  | error cause => simp only [write_self]

/-- Removing through a handle replaces the registry at its place, or fails and leaves the
memory as it was. -/
theorem perform_remove (memory : Memory) (handle : Handle) (id : String) :
    memory.perform (.through handle (.remove id)) =
      match (memory.registry handle.place).remove id with
      | .ok changed => (.removed id, memory.write handle.place changed)
      | .error cause => (.failed cause, memory) := by
  simp only [perform, act, change, Change.on_remove]
  cases (memory.registry handle.place).remove id with
  | ok changed => rfl
  | error cause => simp only [write_self]

/-- Looking into a snapshot leaves the memory as it was. -/
theorem look_snd (memory : Memory) (number : Nat) (reply : Snapshot → Reply) :
    (memory.look number reply).2 = memory := by
  unfold look
  split <;> rfl

/-- What a step comes to: a dataset is registered or removed, a snapshot is taken, or the
memory stays as it was and the reply tells of no change. -/
inductive Steps (memory : Memory) : Request → Reply → Memory → Prop where
  | added (handle : Handle) (dataset : Dataset) (valid : IsId dataset.id)
      (inhabited : dataset.records.toList ≠ []) (ids : List String) :
    Steps memory (.through handle (.add dataset)) (.added ids) (memory.write handle.place
      ⟨(memory.registry handle.place).datasets.insert dataset.id dataset⟩)
  | removed (handle : Handle) (id : String) :
    Steps memory (.through handle (.remove id)) (.removed id) (memory.write handle.place
      ⟨(memory.registry handle.place).datasets.erase id⟩)
  | taken (handle : Handle) :
    Steps memory (.through handle .snapshot) (.taken memory.snapshots.length)
      { memory with
        snapshots := memory.snapshots ++ [(memory.registry handle.place).snapshot] }
  | kept (request : Request) (reply : Reply)
      (silent : ∀ place id, Event.leaves? place id ⟨request, reply⟩ = none) :
    Steps memory request reply memory

/-- Every request is performed by these rules. -/
theorem steps (memory : Memory) (request : Request) :
    memory.Steps request (memory.perform request).1 (memory.perform request).2 := by
  cases request with
  | find number other =>
    simp only [perform, look_snd]
    exact .kept _ _ fun _ _ => rfl
  | count number =>
    simp only [perform, look_snd]
    exact .kept _ _ fun _ _ => rfl
  | through handle action =>
    cases action with
    | add dataset =>
      have rule := (memory.registry handle.place).adds dataset
      rw [perform_add]
      generalize (memory.registry handle.place).add dataset = outcome at rule
      cases rule with
      | added valid inhabited free => exact .added handle dataset valid inhabited _
      | _ => exact .kept _ _ fun _ _ => rfl
    | remove id =>
      have rule := (memory.registry handle.place).removes id
      rw [perform_remove]
      generalize (memory.registry handle.place).remove id = outcome at rule
      cases rule with
      | removed valid present => exact .removed handle id
      | _ => exact .kept _ _ fun _ _ => rfl
    | snapshot => exact .taken handle
    | _ => exact .kept _ _ fun _ _ => rfl

/-- One step leaves under an identifier what its reply tells, and otherwise what was there. -/
theorem Steps.get? {memory next : Memory} {request : Request} {reply : Reply}
    (step : memory.Steps request reply next) (place : Nat) (id : String) :
    (next.registry place).datasets.get? id =
      (Event.leaves? place id ⟨request, reply⟩).getD
        ((memory.registry place).datasets.get? id) := by
  cases step with
  | added handle dataset valid inhabited ids =>
    dsimp only [write, Event.leaves?]
    by_cases here : place = handle.place
    · rw [if_pos here, NameMap.get?_insert, here]
      by_cases same : id = dataset.id <;> simp [same]
    · simp [here]
  | removed handle removed =>
    dsimp only [write, Event.leaves?]
    by_cases here : place = handle.place
    · rw [if_pos here, NameMap.get?_erase, here]
      by_cases same : id = removed <;> simp [same]
    · simp [here]
  | taken handle => rfl
  | kept request reply silent => rw [silent, Option.getD_none]

/-- One step keeps every catalog sound. -/
theorem Steps.sound {memory next : Memory} {request : Request} {reply : Reply}
    (step : memory.Steps request reply next) (sound : ∀ place, (memory.registry place).Sound)
    (place : Nat) : (next.registry place).Sound := by
  cases step with
  | added handle dataset valid inhabited ids =>
    by_cases here : place = handle.place
    · simp only [write, if_pos here]
      exact (sound handle.place).insert valid inhabited
    · simp only [write, if_neg here]
      exact sound place
  | removed handle id =>
    by_cases here : place = handle.place
    · simp only [write, if_pos here]
      exact (sound handle.place).erase id
    · simp only [write, if_neg here]
      exact sound place
  | taken handle => exact sound place
  | kept request reply silent => exact sound place

/-- One step keeps the snapshots that were taken. -/
theorem Steps.snapshots {memory next : Memory} {request : Request} {reply : Reply}
    (step : memory.Steps request reply next) : memory.snapshots <+: next.snapshots := by
  cases step with
  | taken handle => exact List.prefix_append _ _
  | _ => exact List.prefix_rfl

/-- The memory after more steps is that after the first ones, stepped on. -/
theorem after_append (memory : Memory) (requests more : List Request) :
    memory.after (requests ++ more) = (memory.after requests).after more :=
  List.foldl_append

/-- The events of a run are that of its first request and those of the rest. -/
theorem events_cons (memory : Memory) (request : Request) (rest : List Request) :
    memory.events (request :: rest) =
      ⟨request, (memory.perform request).1⟩ :: (memory.perform request).2.events rest :=
  rfl

/-- A run that goes on has further events. -/
theorem events_append (memory : Memory) (requests more : List Request) :
    memory.events (requests ++ more) =
      memory.events requests ++ (memory.after requests).events more := by
  induction requests generalizing memory with
  | nil => rfl
  | cons request rest inductionHypothesis =>
    rw [List.cons_append, events_cons, events_cons, inductionHypothesis, List.cons_append]
    rfl

end Memory

/-- The last step of a history decides, if it has changed what stands under the identifier. -/
theorem registered?_append_singleton (history : List Event) (event : Event) (place : Nat)
    (id : String) :
    registered? (history ++ [event]) place id =
      (event.leaves? place id).getD (registered? history place id) := by
  unfold registered?
  rw [List.filterMap_append]
  cases left : event.leaves? place id with
  | none => simp [left]
  | some value => simp [left]

namespace Memory

/-- After every run, what stands in the registries is what the history tells. -/
theorem get?_after (requests : List Request) (place : Nat) (id : String) :
    ((start.after requests).registry place).datasets.get? id =
      registered? (start.events requests) place id := by
  -- By the last step, since it is the last one in the history that decides.
  induction requests using List.reverseRecOn with
  | nil => rfl
  | append_singleton requests request inductionHypothesis =>
    have left := ((start.after requests).steps request).get? place id
    rw [after_append, events_append]
    rw [inductionHypothesis, ← registered?_append_singleton] at left
    exact left

/-- Every catalog is sound after any run. -/
theorem sound_after (requests : List Request) (place : Nat) :
    ((start.after requests).registry place).Sound := by
  induction requests using List.reverseRecOn generalizing place with
  | nil => exact Catalog.sound_empty
  | append_singleton requests request inductionHypothesis =>
    rw [after_append]
    exact (steps _ request).sound inductionHypothesis place

/-- The snapshots that were taken stay, whatever steps follow. -/
theorem snapshots_after (memory : Memory) (requests : List Request) :
    memory.snapshots <+: (memory.after requests).snapshots := by
  induction requests using List.reverseRecOn with
  | nil => exact List.prefix_rfl
  | append_singleton requests request inductionHypothesis =>
    rw [after_append]
    exact inductionHypothesis.trans (steps _ request).snapshots

/-- A snapshot tells of the datasets that it keeps. -/
theorem tells_of_getElem? {memory : Memory} {number : Nat} {snapshot : Snapshot}
    (kept : memory.snapshots[number]? = some snapshot) :
    memory.Tells number snapshot.datasets.get? := by
  refine ⟨fun id => ?_, snapshot.datasets.names, ?_, ?_⟩
  · simp only [perform, look, kept]
    rfl
  · exact Catalog.lists ⟨snapshot.datasets⟩
  · simp only [perform, look, kept]
    rw [Snapshot.size, NameMap.size, NameMap.names, List.length_map]

/-- The reply to an action through a handle follows from what stands in the registry. -/
theorem replies (memory : Memory) (handle : Handle) (action : Action)
    (sound : (memory.registry handle.place).Sound) :
    Action.Replies handle (memory.registry handle.place).datasets.get? action
      (memory.perform (.through handle action)).1 := by
  cases action with
  | clone => exact .cloned _ rfl
  | add dataset =>
    have rule := (memory.registry handle.place).adds dataset
    rw [perform_add]
    generalize (memory.registry handle.place).add dataset = outcome at rule
    cases rule with
    | invalid invalid => exact .invalid dataset invalid
    | vacant valid vacant => exact .vacant dataset valid vacant
    | duplicate valid inhabited present => exact .duplicate dataset valid inhabited present
    | added valid inhabited free =>
      exact .added dataset valid inhabited free _
        ((memory.registry handle.place).lists_insert dataset)
  | remove id =>
    have rule := (memory.registry handle.place).removes id
    rw [perform_remove]
    generalize (memory.registry handle.place).remove id = outcome at rule
    cases rule with
    | invalid invalid => exact .unremovable id invalid
    | missing valid free => exact .missing id valid free
    | removed valid present => exact .removed id valid present
  | list => exact .listed _ (Catalog.lists _) _ sound.describes_list
  | contains id => exact .contained id
  | snapshot => exact .taken _

/-- A step that fails leaves the memory as it was. -/
theorem Steps.failed {memory next : Memory} {request : Request} {cause : CatalogError}
    (step : memory.Steps request (.failed cause) next) : next = memory := by
  cases step with
  | kept => rfl

/-- A snapshot goes on telling of what was registered when it was taken, whatever steps
follow. -/
theorem tells_after (memory : Memory) (handle : Handle) (later : List Request) :
    ((memory.perform (.through handle .snapshot)).2.after later).Tells memory.snapshots.length
      (memory.registry handle.place).datasets.get? := by
  -- The snapshot is at its number when it is taken, and later ones come behind it.
  obtain ⟨more, kept⟩ := snapshots_after (memory.perform (.through handle .snapshot)).2 later
  have present : ((memory.perform (.through handle .snapshot)).2.after
      later).snapshots[memory.snapshots.length]? =
        some (memory.registry handle.place).snapshot := by
    rw [← kept]
    simp [perform, act]
  exact tells_of_getElem? present

/-- After every sequence of steps the memory is what the history tells: the last successful
registration or removal under an identifier decides, every dataset stands under its own
identifier, and the next reply is told by what is registered. -/
theorem start_accords (requests : List Request) :
    (start.after requests).Accords (start.events requests) := by
  have registered : ∀ place, registered? (start.events requests) place =
      ((start.after requests).registry place).datasets.get? :=
    fun place => funext fun id => (get?_after requests place id).symm
  refine ⟨get?_after requests, sound_after requests, ?_, ?_, ?_⟩
  · intro handle action
    rw [registered]
    exact replies _ handle action (sound_after requests handle.place)
  · intro request cause failed
    have step := (start.after requests).steps request
    rw [failed] at step
    exact step.failed
  · intro handle number taken later
    obtain rfl : (start.after requests).snapshots.length = number := by
      simpa [perform, act] using taken
    rw [registered]
    exact tells_after _ handle later

/-- A dataset that is removed stays in the snapshot, and cannot be removed again through a
clone of the handle. -/
example :
    (start.events [
      .through ⟨0⟩ (.add Sample.dataset), .through ⟨0⟩ .snapshot, .through ⟨0⟩ .clone,
      .through ⟨0⟩ (.remove "courses"), .through (Handle.clone ⟨0⟩) (.remove "courses"),
      .count 0]).map Event.reply =
    [.added ["courses"], .taken 0, .cloned ⟨0⟩, .removed "courses",
      .failed (.notFound "courses"), .counted 1] := by
  decide +kernel

end Memory

end CampusQuery
