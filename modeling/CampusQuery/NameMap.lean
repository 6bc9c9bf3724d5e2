/-!
# Finite maps from names

A map from names keeps its entries in strictly increasing order of names, by code
point, so that equal maps have equal entries and a listing needs no sorting.
Writing a name that is present replaces its value.
-/

namespace CampusQuery

/-- A finite map from names. -/
structure NameMap (α : Type) where
  entries : List (String × α)
  ordered : entries.Pairwise (·.1 < ·.1)

namespace NameMap

variable {α β : Type}

/-- The entries with one value written: at its place in the order, over the value
that the name had. -/
def write (name : String) (value : α) : List (String × α) → List (String × α)
  | [] => [(name, value)]
  | entry :: rest =>
    if name < entry.1 then (name, value) :: entry :: rest
    else if name = entry.1 then (name, value) :: rest
    else entry :: write name value rest

/-- An entry after writing is the written one or was there before. -/
theorem mem_of_mem_write {name : String} {value : α} {entries : List (String × α)}
    {entry : String × α} (present : entry ∈ write name value entries) :
    entry = (name, value) ∨ entry ∈ entries := by
  induction entries with
  | nil => simpa [write] using present
  | cons head rest inductionHypothesis =>
    unfold write at present
    split at present
    · simpa using present
    · split at present
      · rcases List.mem_cons.mp present with written | kept
        · exact .inl written
        · exact .inr (List.mem_cons_of_mem head kept)
      · rcases List.mem_cons.mp present with first | later
        · exact .inr (first ▸ List.mem_cons_self)
        · rcases inductionHypothesis later with written | kept
          · exact .inl written
          · exact .inr (List.mem_cons_of_mem head kept)

/-- Writing keeps the order of names. -/
theorem write_ordered (name : String) (value : α) {entries : List (String × α)}
    (ordered : entries.Pairwise (·.1 < ·.1)) :
    (write name value entries).Pairwise (·.1 < ·.1) := by
  induction entries with
  | nil => simp [write]
  | cons head rest inductionHypothesis =>
    obtain ⟨headLeast, restOrdered⟩ := List.pairwise_cons.mp ordered
    unfold write
    split
    · rename_i before
      refine List.pairwise_cons.mpr ⟨fun entry present => ?_, ordered⟩
      rcases List.mem_cons.mp present with same | later
      · exact same ▸ before
      · exact String.lt_trans before (headLeast entry later)
    · split
      · rename_i same
        exact List.pairwise_cons.mpr
          ⟨fun entry present => same ▸ headLeast entry present, restOrdered⟩
      · rename_i notBefore different
        refine List.pairwise_cons.mpr ⟨fun entry present => ?_, inductionHypothesis restOrdered⟩
        rcases mem_of_mem_write present with written | later
        · subst written
          exact String.not_le.mp fun atMost =>
            different (String.le_antisymm atMost (String.not_lt.mp notBefore))
        · exact headLeast entry later

/-- The map without names. -/
def empty : NameMap α := ⟨[], .nil⟩

instance : Inhabited (NameMap α) := ⟨empty⟩

/-- The map with one value written. -/
def insert (map : NameMap α) (name : String) (value : α) : NameMap α :=
  ⟨write name value map.entries, write_ordered name value map.ordered⟩

/-- The map without a name. -/
def erase (map : NameMap α) (name : String) : NameMap α :=
  ⟨map.entries.filter (·.1 ≠ name), map.ordered.filter _⟩

/-- The value of a name. -/
def get? (map : NameMap α) (name : String) : Option α := map.entries.lookup name

/-- Whether there is a value under a name. -/
def contains (map : NameMap α) (name : String) : Bool := (map.get? name).isSome

/-- The names, in increasing order. -/
def names (map : NameMap α) : List String := map.entries.map (·.1)

/-- The values, in the order of their names. -/
def values (map : NameMap α) : List α := map.entries.map (·.2)

/-- The number of names. -/
def size (map : NameMap α) : Nat := map.entries.length

/-- The map that a list of pairs describes; of two pairs with one name the later
one counts. -/
def ofList (pairs : List (String × α)) : NameMap α :=
  pairs.foldl (fun map pair => map.insert pair.1 pair.2) empty

end NameMap

end CampusQuery
