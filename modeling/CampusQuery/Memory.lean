import CampusQuery.Catalog

/-!
# Catalogs in memory

A program does not hold a catalog but a handle of one. The handle leads to the place of a
registry, and a clone of the handle leads to the same place, so that what is changed through
one of them is seen through all. A registry is changed where it is: a change that fails
stops, and what it did before it stopped stays. A snapshot is taken out of the registry and
kept apart from it.
-/

namespace CampusQuery

/-- A change of a registry, which may fail on the way. -/
abbrev Change (α : Type) := ExceptT CatalogError (StateM Catalog) α

namespace Change

/-- Registers a dataset and lists the registered identifiers. -/
def add (dataset : Dataset) : Change (List String) := do
  ofExcept (Catalog.checkId dataset.id)
  if dataset.size = 0 then throw (.noRecords dataset.id)
  if (← get).datasets.contains dataset.id then throw (.duplicateId dataset.id)
  modify fun catalog => ⟨catalog.datasets.insert dataset.id dataset⟩
  return (← get).ids

/-- Removes what is registered under an identifier. That nothing was there is only seen
afterwards. -/
def remove (id : String) : Change String := do
  ofExcept (Catalog.checkId id)
  let removed := (← get).datasets.get? id
  modify fun catalog => ⟨catalog.datasets.erase id⟩
  match removed with
  | some _ => return id
  | none => throw (.notFound id)

/-- What comes of a change, and the registry that it leaves. -/
def on {α : Type} (change : Change α) (catalog : Catalog) : Except CatalogError α × Catalog :=
  change.run.run catalog

end Change

/-- A handle of a catalog: the place of the registry. -/
structure Handle where
  place : Nat
deriving DecidableEq

/-- Another handle of the same catalog. -/
def Handle.clone (handle : Handle) : Handle := ⟨handle.place⟩

/-- What can be done through a handle. -/
inductive Action where
  | clone
  | add (dataset : Dataset)
  | remove (id : String)
  | list
  | contains (id : String)
  | snapshot
deriving DecidableEq

/-- A step of a program: an action through a handle, or a look into one of the snapshots
that were taken, which go by their numbers. -/
inductive Request where
  | through (handle : Handle) (action : Action)
  | find (snapshot : Nat) (id : String)
  | count (snapshot : Nat)
deriving DecidableEq

/-- What a program gets back. -/
inductive Reply where
  | cloned (handle : Handle)
  | added (ids : List String)
  | removed (id : String)
  | listed (summaries : List Summary)
  | contained (present : Bool)
  | taken (snapshot : Nat)
  | found (dataset : Option Dataset)
  | counted (size : Nat)
  | failed (cause : CatalogError)
  /-- There is no snapshot of the number. -/
  | noSnapshot
deriving DecidableEq

/-- The registries at their places, and the snapshots in the order in which they were
taken. -/
structure Memory where
  registry : Nat → Catalog
  snapshots : List Snapshot

namespace Memory

/-- All catalogs are new. -/
def start : Memory := ⟨fun _ => .empty, []⟩

/-- The memory with another registry at a place. -/
def write (memory : Memory) (place : Nat) (catalog : Catalog) : Memory :=
  { memory with
    registry := fun other => if other = place then catalog else memory.registry other }

/-- Makes a change where a handle leads. -/
def change {α : Type} (memory : Memory) (handle : Handle) (change : Change α) (reply : α → Reply) :
    Reply × Memory :=
  match change.on (memory.registry handle.place) with
  | (.ok value, catalog) => (reply value, memory.write handle.place catalog)
  | (.error cause, catalog) => (.failed cause, memory.write handle.place catalog)

/-- Acts through a handle. -/
def act (memory : Memory) (handle : Handle) : Action → Reply × Memory
  | .clone => (.cloned handle.clone, memory)
  | .add dataset => memory.change handle (.add dataset) .added
  | .remove id => memory.change handle (.remove id) .removed
  | .list => (.listed (memory.registry handle.place).list, memory)
  | .contains id => (.contained ((memory.registry handle.place).contains id), memory)
  | .snapshot =>
    (.taken memory.snapshots.length,
      { memory with
        snapshots := memory.snapshots ++ [(memory.registry handle.place).snapshot] })

/-- Looks into a snapshot. -/
def look (memory : Memory) (number : Nat) (reply : Snapshot → Reply) : Reply × Memory :=
  match memory.snapshots[number]? with
  | some snapshot => (reply snapshot, memory)
  | none => (.noSnapshot, memory)

/-- The reply to a step, and the memory after it. -/
def perform (memory : Memory) : Request → Reply × Memory
  | .through handle action => memory.act handle action
  | .find number id => memory.look number fun snapshot => .found (snapshot.lookup id)
  | .count number => memory.look number fun snapshot => .counted snapshot.size

/-- The memory after a sequence of steps. -/
def after (memory : Memory) (requests : List Request) : Memory :=
  requests.foldl (fun memory request => (memory.perform request).2) memory

end Memory

/-- A step with its reply. -/
structure Event where
  request : Request
  reply : Reply
deriving DecidableEq

/-- The history of a sequence of steps. -/
def Memory.events (memory : Memory) : List Request → List Event
  | [] => []
  | request :: rest =>
    let (reply, next) := memory.perform request
    ⟨request, reply⟩ :: next.events rest

end CampusQuery
