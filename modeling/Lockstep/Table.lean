/-!
# Tables in key order

A `Table` holds at most one value for each key and lists its keys in ascending order. Two
tables with the same contents are the same table (`Table.ext_get?`), so a state made of tables
is determined by what can be looked up in it, and its written form is canonical.

Each operation has one law that says what it does to `get?`: `get?_insert`, `get?_erase`,
`get?_modify`, `get?_mapValues` and `get?_filter`.
-/

set_option autoImplicit false

namespace Lockstep

open Std (TransOrd LawfulEqOrd)

/-- Keys in strictly ascending order, each with its value. -/
structure Table (κ ν : Type) [Ord κ] where
  entries : List (κ × ν)
  ordered : entries.Pairwise fun first second => compare first.1 second.1 = .lt

namespace Table

variable {κ ν μ : Type} [Ord κ]

/-! ## Entry lists -/

/-- The value of the first entry with the key. -/
def lookup (key : κ) : List (κ × ν) → Option ν
  | [] => none
  | (other, value) :: rest => if compare key other = .eq then some value else lookup key rest

/-- Put an entry before the first greater key, in place of an equal one. -/
def place (key : κ) (value : ν) : List (κ × ν) → List (κ × ν)
  | [] => [(key, value)]
  | (other, held) :: rest =>
    match compare key other with
    | .lt => (key, value) :: (other, held) :: rest
    | .eq => (key, value) :: rest
    | .gt => (other, held) :: place key value rest

theorem mem_place {key : κ} {value : ν} {entry : κ × ν} {entries : List (κ × ν)}
    (member : entry ∈ place key value entries) : entry = (key, value) ∨ entry ∈ entries := by
  induction entries with
  | nil => simpa [place] using member
  | cons head rest inductionHypothesis =>
    obtain ⟨other, held⟩ := head
    simp only [place] at member
    split at member <;> grind

section

variable [TransOrd κ] [LawfulEqOrd κ]

theorem ordered_place (key : κ) (value : ν) {entries : List (κ × ν)}
    (ordered : entries.Pairwise fun first second => compare first.1 second.1 = .lt) :
    (place key value entries).Pairwise fun first second =>
      compare first.1 second.1 = .lt := by
  induction entries with
  | nil => simp [place]
  | cons head rest inductionHypothesis =>
    obtain ⟨other, held⟩ := head
    rw [List.pairwise_cons] at ordered
    rw [place]
    cases order : compare key other with
    | lt =>
      rw [List.pairwise_cons, List.pairwise_cons]
      refine ⟨fun entry member => ?_, ordered⟩
      rcases List.mem_cons.mp member with rfl | member
      · exact order
      · exact Std.TransCmp.lt_trans order (ordered.1 entry member)
    | eq =>
      obtain rfl := Std.LawfulEqOrd.eq_of_compare order
      exact List.pairwise_cons.mpr ordered
    | gt =>
      rw [List.pairwise_cons]
      refine ⟨fun entry member => ?_, inductionHypothesis ordered.2⟩
      rcases mem_place member with rfl | member
      · exact Std.OrientedCmp.gt_iff_lt.mp order
      · exact ordered.1 entry member

omit [TransOrd κ] in
theorem lookup_place [DecidableEq κ] (key probe : κ) (value : ν) (entries : List (κ × ν)) :
    lookup probe (place key value entries) =
      if probe = key then some value else lookup probe entries := by
  induction entries with
  | nil => simp [place, lookup]
  | cons head rest inductionHypothesis =>
    obtain ⟨other, held⟩ := head
    rw [place]
    cases order : compare key other with
    | lt => simp [lookup]
    | eq =>
      obtain rfl := Std.LawfulEqOrd.eq_of_compare order
      simp only [lookup, Std.compare_eq_iff_eq]
      split <;> rfl
    | gt =>
      simp only [lookup, Std.compare_eq_iff_eq, inductionHypothesis]
      by_cases here : probe = other
      · subst here
        have apart : ¬ probe = key := by
          rintro rfl
          simp at order
        simp [apart]
      · simp [here]

omit [TransOrd κ] in
theorem mem_of_lookup {key : κ} {value : ν} {entries : List (κ × ν)}
    (found : lookup key entries = some value) : (key, value) ∈ entries := by
  induction entries with
  | nil => simp [lookup] at found
  | cons head rest inductionHypothesis =>
    obtain ⟨other, held⟩ := head
    simp only [lookup, Std.compare_eq_iff_eq] at found
    split at found <;> grind

omit [TransOrd κ] in
theorem lookup_of_mem {key : κ} {value : ν} {entries : List (κ × ν)}
    (ordered : entries.Pairwise fun first second => compare first.1 second.1 = .lt)
    (member : (key, value) ∈ entries) : lookup key entries = some value := by
  induction entries with
  | nil => simp at member
  | cons head rest inductionHypothesis =>
    obtain ⟨other, held⟩ := head
    rw [List.pairwise_cons] at ordered
    rcases List.mem_cons.mp member with same | member
    · cases same
      simp [lookup, Std.ReflCmp.compare_self]
    · have before := ordered.1 _ member
      have apart : ¬ key = other := by
        rintro rfl
        simp [Std.ReflCmp.compare_self] at before
      simp [lookup, apart, inductionHypothesis ordered.2 member]

end

/-! ## Operations -/

/-- No keys. -/
def empty : Table κ ν := ⟨[], .nil⟩

instance : Inhabited (Table κ ν) := ⟨empty⟩

instance [DecidableEq κ] [DecidableEq ν] : DecidableEq (Table κ ν) := fun first second =>
  if same : first.entries = second.entries then
    isTrue (by cases first; cases second; cases same; rfl)
  else isFalse (fun equal => same (equal ▸ rfl))

/-- The value held for a key. -/
def get? (table : Table κ ν) (key : κ) : Option ν := lookup key table.entries

/-- Whether a key has a value. -/
def contains (table : Table κ ν) (key : κ) : Bool := (table.get? key).isSome

/-- Hold a value for a key, in place of any earlier one. -/
def insert [TransOrd κ] [LawfulEqOrd κ] (table : Table κ ν) (key : κ) (value : ν) : Table κ ν :=
  ⟨place key value table.entries, ordered_place key value table.ordered⟩

/-- Keep the entries that pass a test. -/
def filter (table : Table κ ν) (keep : κ → ν → Bool) : Table κ ν :=
  ⟨table.entries.filter fun entry => keep entry.1 entry.2, table.ordered.filter _⟩

/-- Forget a key. -/
def erase (table : Table κ ν) (key : κ) : Table κ ν :=
  table.filter fun other _ => compare key other != .eq

/-- Change each value in view of its key. -/
def mapValues (table : Table κ ν) (change : κ → ν → μ) : Table κ μ where
  entries := table.entries.map fun entry => (entry.1, change entry.1 entry.2)
  ordered := List.pairwise_map.mpr table.ordered

/-- Change the value of one key, if it has one. -/
def modify (table : Table κ ν) (key : κ) (change : ν → ν) : Table κ ν :=
  table.mapValues fun other value => if compare key other = .eq then change value else value

/-- The keys in ascending order. -/
def keys (table : Table κ ν) : List κ := table.entries.map Prod.fst

/-- The values in the order of their keys. -/
def values (table : Table κ ν) : List ν := table.entries.map Prod.snd

/-- How many keys have a value. -/
def size (table : Table κ ν) : Nat := table.entries.length

/-- The table of some entries, where a later entry replaces an earlier one with its key. -/
def ofList [TransOrd κ] [LawfulEqOrd κ] (entries : List (κ × ν)) : Table κ ν :=
  entries.foldl (fun table entry => table.insert entry.1 entry.2) empty

/-! ## What each operation does to look-ups -/

@[simp] theorem get?_empty (key : κ) : (empty : Table κ ν).get? key = none := rfl

theorem get?_mapValues [LawfulEqOrd κ] (table : Table κ ν) (change : κ → ν → μ) (key : κ) :
    (table.mapValues change).get? key = (table.get? key).map (change key) := by
  obtain ⟨entries, ordered⟩ := table
  simp only [get?, mapValues]
  induction entries with
  | nil => rfl
  | cons head rest inductionHypothesis =>
    obtain ⟨other, held⟩ := head
    rw [List.map_cons, lookup, lookup]
    by_cases here : compare key other = .eq
    · obtain rfl := Std.LawfulEqOrd.eq_of_compare here
      simp
    · rw [if_neg here, if_neg here]
      exact inductionHypothesis (List.pairwise_cons.mp ordered).2

theorem get?_modify [LawfulEqOrd κ] [DecidableEq κ] (table : Table κ ν) (key probe : κ)
    (change : ν → ν) :
    (table.modify key change).get? probe =
      if probe = key then (table.get? probe).map change else table.get? probe := by
  rw [modify, get?_mapValues]
  by_cases same : probe = key
  · subst same
    simp
  · have apart : ¬ key = probe := fun equal => same equal.symm
    simp [same, apart]

variable [TransOrd κ] [LawfulEqOrd κ]

theorem get?_insert [DecidableEq κ] (table : Table κ ν) (key probe : κ) (value : ν) :
    (table.insert key value).get? probe =
      if probe = key then some value else table.get? probe := by
  exact lookup_place ..

omit [TransOrd κ] in
theorem mem_entries_iff {table : Table κ ν} {key : κ} {value : ν} :
    (key, value) ∈ table.entries ↔ table.get? key = some value :=
  ⟨lookup_of_mem table.ordered, mem_of_lookup⟩

omit [TransOrd κ] in
theorem get?_filter (table : Table κ ν) (keep : κ → ν → Bool) (key : κ) :
    (table.filter keep).get? key = (table.get? key).filter (keep key) := by
  apply Option.ext
  intro value
  rw [← mem_entries_iff, Option.filter_eq_some_iff, ← mem_entries_iff]
  simp [filter, List.mem_filter]

omit [TransOrd κ] in
theorem get?_erase [DecidableEq κ] (table : Table κ ν) (key probe : κ) :
    (table.erase key).get? probe = if probe = key then none else table.get? probe := by
  rw [erase, get?_filter]
  by_cases same : probe = key
  · subst same
    cases held : table.get? probe <;> simp [Std.ReflCmp.compare_self]
  · have apart : ¬ key = probe := fun equal => same equal.symm
    cases held : table.get? probe <;> simp [same, apart]

/-! ## Look-ups of the key itself, and of others -/

omit [TransOrd κ] in
theorem get?_modify_self (table : Table κ ν) (key : κ) (change : ν → ν) :
    (table.modify key change).get? key = (table.get? key).map change := by
  classical
  rw [get?_modify, if_pos rfl]

omit [TransOrd κ] in
theorem get?_modify_of_ne (table : Table κ ν) {key probe : κ} (apart : probe ≠ key)
    (change : ν → ν) : (table.modify key change).get? probe = table.get? probe := by
  classical
  rw [get?_modify, if_neg apart]

theorem get?_insert_self (table : Table κ ν) (key : κ) (value : ν) :
    (table.insert key value).get? key = some value := by
  classical
  rw [get?_insert, if_pos rfl]

theorem get?_insert_of_ne (table : Table κ ν) {key probe : κ} (apart : probe ≠ key) (value : ν) :
    (table.insert key value).get? probe = table.get? probe := by
  classical
  rw [get?_insert, if_neg apart]

omit [TransOrd κ] in
theorem get?_erase_self (table : Table κ ν) (key : κ) : (table.erase key).get? key = none := by
  classical
  rw [get?_erase, if_pos rfl]

omit [TransOrd κ] in
theorem get?_erase_of_ne (table : Table κ ν) {key probe : κ} (apart : probe ≠ key) :
    (table.erase key).get? probe = table.get? probe := by
  classical
  rw [get?_erase, if_neg apart]

theorem get?_insert_eq_some_iff {table : Table κ ν} {key probe : κ} {value held : ν} :
    (table.insert key value).get? probe = some held ↔
      probe = key ∧ value = held ∨ probe ≠ key ∧ table.get? probe = some held := by
  classical
  rw [get?_insert]
  by_cases same : probe = key <;> simp [same]

omit [TransOrd κ] in
theorem get?_erase_eq_some_iff {table : Table κ ν} {key probe : κ} {held : ν} :
    (table.erase key).get? probe = some held ↔ probe ≠ key ∧ table.get? probe = some held := by
  classical
  rw [get?_erase]
  by_cases same : probe = key <;> simp [same]

/-! ## Extensionality -/

omit [LawfulEqOrd κ] in
theorem eq_of_mem_iff {first second : List (κ × ν)}
    (firstOrdered : first.Pairwise fun left right => compare left.1 right.1 = .lt)
    (secondOrdered : second.Pairwise fun left right => compare left.1 right.1 = .lt)
    (same : ∀ entry, entry ∈ first ↔ entry ∈ second) : first = second := by
  induction first generalizing second with
  | nil =>
    cases second with
    | nil => rfl
    | cons head rest => simpa using same head
  | cons head rest inductionHypothesis =>
    cases second with
    | nil => simpa using same head
    | cons other others =>
      rw [List.pairwise_cons] at firstOrdered secondOrdered
      have heads : head = other := by
        rcases List.mem_cons.mp ((same head).mp (List.mem_cons_self ..)) with equal | later
        · exact equal
        rcases List.mem_cons.mp ((same other).mpr (List.mem_cons_self ..)) with equal | earlier
        · exact equal.symm
        · have forward := secondOrdered.1 head later
          have backward := firstOrdered.1 other earlier
          have loop := Std.TransCmp.lt_trans forward backward
          simp [Std.ReflCmp.compare_self] at loop
      subst heads
      congr 1
      refine inductionHypothesis firstOrdered.2 secondOrdered.2 fun entry => ?_
      have irreflexive : ∀ later ∈ rest, later ≠ head := by
        rintro later member rfl
        simpa [Std.ReflCmp.compare_self] using firstOrdered.1 _ member
      have irreflexive' : ∀ later ∈ others, later ≠ head := by
        rintro later member rfl
        simpa [Std.ReflCmp.compare_self] using secondOrdered.1 _ member
      constructor
      · intro member
        rcases List.mem_cons.mp ((same entry).mp (List.mem_cons_of_mem _ member)) with equal | found
        · exact absurd equal (irreflexive entry member)
        · exact found
      · intro member
        rcases List.mem_cons.mp ((same entry).mpr (List.mem_cons_of_mem _ member)) with equal | found
        · exact absurd equal (irreflexive' entry member)
        · exact found

/-- A table is determined by its look-ups. -/
theorem ext_get? {first second : Table κ ν} (same : ∀ key, first.get? key = second.get? key) :
    first = second := by
  have entries : first.entries = second.entries :=
    eq_of_mem_iff first.ordered second.ordered fun (key, value) => by
      rw [mem_entries_iff, mem_entries_iff, same key]
  cases first
  cases second
  cases entries
  rfl

end Table

/-! ## Sets of keys -/

/-- A set of keys in ascending order. -/
abbrev KeySet (κ : Type) [Ord κ] := Table κ Unit

end Lockstep
