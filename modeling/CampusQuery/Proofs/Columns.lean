import CampusQuery.Options
import CampusQuery.Proofs.Keys

/-!
# What reading the options accepts

A column has one written form, its label. So the options that are read determine the
texts they were read from, and reading accepts exactly the texts that name a rule or
display a key, the keys all of one dataset, and an order by some of the columns.
-/

namespace CampusQuery

namespace Column

/-- A column as it is written. -/
def written (column : Column) : Json := .text column.label

/-- What a column must be to be read, given the names of the rules: a rule among them,
or a key that could stand for no rule. -/
def Declared (rules : List String) : Column → Prop
  | .field key => IsId key.dataset ∧ key.display ∉ rules
  | .aggregate name => name ∈ rules

/-- Reading accepts exactly the labels of declared columns. -/
theorem read_eq_ok_iff {rules : List String} {raw : String} {column : Column} :
    read rules raw = .ok column ↔ raw = column.label ∧ column.Declared rules := by
  unfold read
  by_cases named : raw ∈ rules
  · rw [if_pos (List.contains_iff_mem.mpr named), Except.ok.injEq]
    constructor
    · rintro rfl
      exact ⟨rfl, named⟩
    · rintro ⟨rfl, declared⟩
      cases column with
      | aggregate name => rfl
      | field key => exact absurd named declared.2
  · rw [if_neg (mt List.contains_iff_mem.mp named)]
    simp only [Checks.bind_eq_ok, Checks.pure_eq_ok, Key.read_eq_ok_iff]
    constructor
    · rintro ⟨key, ⟨rfl, plain⟩, rfl⟩
      exact ⟨rfl, plain, named⟩
    · rintro ⟨rfl, declared⟩
      cases column with
      | aggregate name => exact absurd declared named
      | field key => exact ⟨key, ⟨rfl, declared.1⟩, rfl⟩

/-- All fields among the columns are of one dataset, the bound one if there is one. -/
def Agree (bound : Option String) (columns : List Column) : Prop :=
  ∃ dataset, (∀ other ∈ bound, other = dataset) ∧
    ∀ key, .field key ∈ columns → key.dataset = dataset

/-- Without columns there is nothing to disagree. -/
theorem agree_nil (bound : Option String) : Agree bound [] := by
  cases bound with
  | none => exact ⟨"", by simp, by simp⟩
  | some dataset => exact ⟨dataset, by simp, by simp⟩

/-- The name of a rule says nothing about the dataset. -/
theorem agree_aggregate_cons_iff {bound : Option String} {name : String} {rest : List Column} :
    Agree bound (.aggregate name :: rest) ↔ Agree bound rest := by
  simp [Agree]

/-- A field is of the bound dataset, or binds its own for those after it. -/
theorem agree_field_cons_iff {bound : Option String} {key : Key} {rest : List Column} :
    Agree bound (.field key :: rest) ↔
      key.dataset = bound.getD key.dataset ∧ Agree (some (bound.getD key.dataset)) rest := by
  constructor
  · rintro ⟨dataset, same, each⟩
    have first : key.dataset = dataset := each key List.mem_cons_self
    have chosen : bound.getD key.dataset = dataset := by
      cases bound with
      | none => exact first
      | some other => exact same other rfl
    rw [chosen]
    exact ⟨first, dataset, by simp, fun other member => each other (List.mem_cons_of_mem _ member)⟩
  · rintro ⟨first, dataset, same, each⟩
    obtain rfl : bound.getD key.dataset = dataset := same _ rfl
    refine ⟨bound.getD key.dataset, ?_, ?_⟩
    · rintro other ⟨⟩
      rfl
    · intro other member
      rcases List.mem_cons.mp member with same | later
      · cases same
        exact first
      · exact each other later

end Column

namespace Options

/-- Reading the columns accepts exactly the written forms of declared columns that agree
on a dataset. -/
theorem readColumns_eq_ok_iff {rules : List String} {bound : Option String} {items : List Json}
    {columns : List Column} :
    readColumns rules bound items = .ok columns ↔
      items = columns.map Column.written ∧ (∀ column ∈ columns, column.Declared rules) ∧
        Column.Agree bound columns := by
  induction items generalizing bound columns with
  | nil =>
    rw [readColumns, Except.ok.injEq]
    constructor
    · rintro rfl
      exact ⟨rfl, by simp, Column.agree_nil bound⟩
    · rintro ⟨written, -, -⟩
      exact (List.map_eq_nil_iff.mp written.symm).symm
  | cons item rest inductionHypothesis =>
    constructor
    · intro accepted
      cases item with
      | text raw =>
        simp only [readColumns, Checks.bind_eq_ok, Column.read_eq_ok_iff] at accepted
        obtain ⟨column, ⟨rfl, declared⟩, accepted⟩ := accepted
        cases column with
        | aggregate name =>
          simp only [Checks.bind_eq_ok, Checks.pure_eq_ok] at accepted
          obtain ⟨others, restRead, rfl⟩ := accepted
          obtain ⟨rfl, each, agree⟩ := inductionHypothesis.mp restRead
          exact ⟨rfl, List.forall_mem_cons.mpr ⟨declared, each⟩,
            Column.agree_aggregate_cons_iff.mpr agree⟩
        | field key =>
          dsimp only at accepted
          split at accepted
          · exact absurd accepted (by simp)
          · rename_i same
            simp only [Checks.bind_eq_ok, Checks.pure_eq_ok] at accepted
            obtain ⟨others, restRead, rfl⟩ := accepted
            obtain ⟨rfl, each, agree⟩ := inductionHypothesis.mp restRead
            exact ⟨rfl, List.forall_mem_cons.mpr ⟨declared, each⟩,
              Column.agree_field_cons_iff.mpr ⟨Decidable.not_not.mp same, agree⟩⟩
      | _ => cases accepted
    · rintro ⟨written, each, agree⟩
      cases columns with
      | nil => cases written
      | cons column others =>
        obtain ⟨rfl, rfl⟩ := List.cons.inj written
        obtain ⟨declared, othersDeclared⟩ := List.forall_mem_cons.mp each
        have read := Column.read_eq_ok_iff.mpr ⟨rfl, declared⟩
        rw [Column.written, readColumns, read, Checks.ok_bind]
        cases column with
        | aggregate name =>
          have restRead := inductionHypothesis.mpr
            ⟨rfl, othersDeclared, Column.agree_aggregate_cons_iff.mp agree⟩
          simp [restRead]
        | field key =>
          obtain ⟨same, restAgree⟩ := Column.agree_field_cons_iff.mp agree
          have restRead := inductionHypothesis.mpr ⟨rfl, othersDeclared, restAgree⟩
          dsimp only
          rw [if_neg (fun different => different same), restRead]
          rfl

/-- A key of the order is read from the label of a selected column. -/
theorem readOrderKey_eq_ok_iff {rules : List String} {columns : List Column} {raw : String}
    {column : Column} :
    readOrderKey rules columns raw = .ok column ↔
      raw = column.label ∧ column.Declared rules ∧ column ∈ columns := by
  simp only [readOrderKey, Checks.bind_eq_ok, Column.read_eq_ok_iff]
  constructor
  · rintro ⟨read, ⟨rfl, declared⟩, accepted⟩
    split at accepted
    · rename_i selected
      obtain rfl := Checks.pure_eq_ok.mp accepted
      exact ⟨rfl, declared, List.contains_iff_mem.mp selected⟩
    · exact absurd accepted Checks.throw_ne_ok
  · rintro ⟨rfl, declared, selected⟩
    exact ⟨column, ⟨rfl, declared⟩, by simp [selected]⟩

/-- Sort keys are read one by one; each must be among the columns. -/
theorem readOrderKeys_eq_ok_iff {rules : List String} {columns : List Column} {items : List Json}
    {keys : List Column} :
    readOrderKeys rules columns items = .ok keys ↔
      items = keys.map Column.written ∧ ∀ key ∈ keys, key.Declared rules ∧ key ∈ columns := by
  induction items generalizing keys with
  | nil =>
    rw [readOrderKeys, Except.ok.injEq]
    constructor
    · rintro rfl
      exact ⟨rfl, by simp⟩
    · rintro ⟨written, -⟩
      exact (List.map_eq_nil_iff.mp written.symm).symm
  | cons item rest inductionHypothesis =>
    constructor
    · intro accepted
      cases item with
      | text raw =>
        simp only [readOrderKeys, Checks.bind_eq_ok, Checks.pure_eq_ok, readOrderKey_eq_ok_iff,
          inductionHypothesis] at accepted
        obtain ⟨key, ⟨rfl, fit⟩, others, ⟨rfl, othersFit⟩, rfl⟩ := accepted
        exact ⟨rfl, List.forall_mem_cons.mpr ⟨fit, othersFit⟩⟩
      | _ => cases accepted
    · rintro ⟨written, each⟩
      cases keys with
      | nil => cases written
      | cons key others =>
        obtain ⟨rfl, rfl⟩ := List.cons.inj written
        obtain ⟨fit, othersFit⟩ := List.forall_mem_cons.mp each
        have read := readOrderKey_eq_ok_iff.mpr ⟨rfl, fit⟩
        have restRead := inductionHypothesis.mpr ⟨rfl, othersFit⟩
        simp [Column.written, readOrderKeys, read, restRead]

end Options

/-- A direction is found by its label alone. -/
theorem Direction.ofLabel?_eq_some_iff {text : String} {direction : Direction} :
    ofLabel? text = some direction ↔ text = direction.label := by
  apply Checks.find?_label_eq_some_iff
  intro direction
  cases direction <;> decide

/-- The two ways to write an order: one key, or a direction with keys. -/
inductive SortOrder.Spells : Json → SortOrder → Prop where
  | single (column : Column) : Spells column.written ⟨.up, [column]⟩
  | directed {members : List (String × Json)} {direction : Direction} {keys : List Column}
      (known : ∀ member ∈ members, member.1 ∈ Options.orderClauses)
      (dir : members.lookup "dir" = some (.text direction.label))
      (listed : members.lookup "keys" = some (.array (keys.map Column.written)))
      (some : keys ≠ []) : Spells (.object members) ⟨direction, keys⟩

namespace Options

/-- The keys of a directed order are read from an array that is not empty. -/
theorem listedKeys_eq_ok_iff {rules : List String} {columns : List Column}
    {direction : Direction} {listed : Option Json} {order : SortOrder} :
    (match listed with
      | some (.array []) => throw Fault.orderKeysEmpty
      | some (.array items) => return SortOrder.mk direction (← readOrderKeys rules columns items)
      | _ => throw .orderKeysMissing : Except Fault SortOrder) = .ok order ↔
    order.direction = direction ∧ listed = some (.array (order.keys.map Column.written)) ∧
      order.keys ≠ [] ∧ ∀ key ∈ order.keys, key.Declared rules ∧ key ∈ columns := by
  constructor
  · intro accepted
    split at accepted
    · exact absurd accepted Checks.throw_ne_ok
    · rename_i items some
      simp only [Checks.bind_eq_ok, Checks.pure_eq_ok, readOrderKeys_eq_ok_iff] at accepted
      obtain ⟨keys, ⟨rfl, fit⟩, rfl⟩ := accepted
      exact ⟨rfl, rfl, fun none => some (List.map_eq_nil_iff.mpr none), fit⟩
    · exact absurd accepted Checks.throw_ne_ok
  · obtain ⟨_, keys⟩ := order
    rintro ⟨rfl, rfl, some, fit⟩
    have read := readOrderKeys_eq_ok_iff.mpr ⟨rfl, fit⟩
    cases keys with
    | nil => exact absurd rfl some
    | cons key others =>
      simp only [List.map_cons] at read ⊢
      rw [read]
      rfl

/-- Reading accepts exactly the written orders by selected columns. -/
theorem readOrder_eq_ok_iff {rules : List String} {columns : List Column} {raw : Json}
    {order : SortOrder} :
    readOrder rules columns raw = .ok order ↔
      order.Spells raw ∧ ∀ key ∈ order.keys, key.Declared rules ∧ key ∈ columns := by
  constructor
  · intro accepted
    unfold readOrder at accepted
    split at accepted
    · simp only [Checks.bind_eq_ok, Checks.pure_eq_ok, readOrderKey_eq_ok_iff] at accepted
      obtain ⟨column, ⟨rfl, fit⟩, rfl⟩ := accepted
      exact ⟨.single column, by simpa using fit⟩
    · rename_i members
      cases unknown : members.find? (fun member => !orderClauses.contains member.1) with
      | some member => simp only [unknown, Checks.throw_bind, Checks.throw_ne_ok] at accepted
      | none =>
        have known := Checks.unknown_eq_none_iff.mp unknown
        simp only [unknown] at accepted
        split at accepted
        · rename_i text dir
          split at accepted
          · rename_i direction named
            obtain rfl := Direction.ofLabel?_eq_some_iff.mp named
            obtain ⟨rfl, listed, some, fit⟩ := listedKeys_eq_ok_iff.mp accepted
            exact ⟨.directed known dir listed some, fit⟩
          · exact absurd accepted (by simp)
        · exact absurd accepted (by simp)
    · cases accepted
  · rintro ⟨spelled, fit⟩
    cases spelled with
    | single column =>
      have read := readOrderKey_eq_ok_iff.mpr ⟨rfl, fit column (List.mem_singleton.mpr rfl)⟩
      simp [Column.written, readOrder, read]
    | @directed members direction keys known dir listed some =>
      have named := Direction.ofLabel?_eq_some_iff.mpr (rfl : direction.label = direction.label)
      unfold readOrder
      simp only [Checks.unknown_eq_none_iff.mpr known, dir, named]
      exact listedKeys_eq_ok_iff.mpr ⟨rfl, listed, some, fit⟩

/-- What the options are when they are read: their columns and their order, in the
written form of the members, each declared and the fields of one dataset. -/
structure Spells (rules : List String) (members : List (String × Json)) (options : Options) :
    Prop where
  known : ∀ member ∈ members, member.1 ∈ clauses
  columns : members.lookup "COLUMNS" = some (.array (options.columns.map Column.written))
  selected : options.columns ≠ []
  declared : ∀ column ∈ options.columns, column.Declared rules
  agree : Column.Agree none options.columns
  order : Option.Rel
    (fun raw order => order.Spells raw ∧
      ∀ key ∈ order.keys, key.Declared rules ∧ key ∈ options.columns)
    (members.lookup "ORDER") options.order

/-- The order is read where there is one. -/
theorem orderClause_eq_ok_iff {rules : List String} {columns : List Column} {raw : Option Json}
    {options : Options} :
    (match raw with
      | none => return Options.mk columns none
      | some raw => return Options.mk columns (some (← readOrder rules columns raw)) :
      Except Fault Options) = .ok options ↔
    options.columns = columns ∧ Option.Rel
      (fun raw order => order.Spells raw ∧ ∀ key ∈ order.keys, key.Declared rules ∧ key ∈ columns)
      raw options.order := by
  obtain ⟨selected, order⟩ := options
  cases raw with
  | none =>
    rw [Checks.pure_eq_ok, Options.mk.injEq]
    constructor
    · rintro ⟨rfl, rfl⟩
      exact ⟨rfl, .none⟩
    · rintro ⟨rfl, spelled⟩
      cases spelled
      exact ⟨rfl, rfl⟩
  | some raw =>
    simp only [Checks.bind_eq_ok, Checks.pure_eq_ok, readOrder_eq_ok_iff, Options.mk.injEq]
    constructor
    · rintro ⟨read, fit, rfl, rfl⟩
      exact ⟨rfl, .some fit⟩
    · rintro ⟨rfl, spelled⟩
      cases spelled with
      | some fit => exact ⟨_, fit, rfl, rfl⟩

/-- Reading accepts exactly the objects that spell options. -/
theorem read_eq_ok_iff {rules : List String} {raw : Json} {options : Options} :
    read rules raw = .ok options ↔
      ∃ members, raw = .object members ∧ Spells rules members options := by
  constructor
  · intro accepted
    unfold read at accepted
    split at accepted
    · rename_i members
      cases unknown : members.find? (fun member => !clauses.contains member.1) with
      | some member => simp only [unknown, Checks.throw_bind, Checks.throw_ne_ok] at accepted
      | none =>
        have known := Checks.unknown_eq_none_iff.mp unknown
        simp only [unknown] at accepted
        split at accepted
        · exact absurd accepted (by simp)
        · exact absurd accepted (by simp)
        · rename_i items some listed
          obtain ⟨columns, columnsRead, ordered⟩ := Checks.bind_eq_ok.mp accepted
          obtain ⟨rfl, declared, agree⟩ := readColumns_eq_ok_iff.mp columnsRead
          obtain ⟨rfl, order⟩ := orderClause_eq_ok_iff.mp ordered
          exact ⟨members, rfl, known, listed, fun none => some (List.map_eq_nil_iff.mpr none),
            declared, agree, order⟩
        · exact absurd accepted (by simp)
    · cases accepted
  · rintro ⟨members, rfl, spelled⟩
    have read := readColumns_eq_ok_iff.mpr ⟨rfl, spelled.declared, spelled.agree⟩
    have ordered := orderClause_eq_ok_iff.mpr ⟨rfl, spelled.order⟩
    unfold Options.read
    simp only [Checks.unknown_eq_none_iff.mpr spelled.known, spelled.columns]
    cases selected : options.columns with
    | nil => exact absurd selected spelled.selected
    | cons column others =>
      rw [selected] at read ordered
      rw [List.map_cons] at read ⊢
      simp only [read, Checks.ok_bind]
      exact ordered

end Options

end CampusQuery
