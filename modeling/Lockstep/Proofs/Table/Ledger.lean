import Mathlib.Data.List.Nodup
import Mathlib.Data.List.Range
import Lockstep.Proofs.Table.Keys

/-!
# Ledgers of the keys of tables

A counter gives out the numbers from one on (`Counted`). Where each entry that comes into a table
has the next number in its key, a ledger of all that have come says all there is to know about keys
(`Numbering.Ledger`): their numbers ascend, nobody comes twice, and what is found in the table under
a key is what came in under it.

Nothing is said about the size of the table. The one thing that could go wrong is that the counter
runs over, and it does not as long as fewer entries have come than there are numbers
(`Numbering.Ledger.follow`).
-/

set_option autoImplicit false

namespace Lockstep

/-! ## Counters -/

/-- The numbers that were given out are those from one on, and the counter has counted them. -/
structure Counted (numbers : List Nat) (count : Nat) : Prop where
  count : count = numbers.length
  numbers : numbers = List.range' 1 numbers.length

namespace Counted

variable {numbers : List Nat} {count : Nat}

theorem none : Counted [] 0 := ⟨rfl, rfl⟩

/-- The next number is given out, and there is one. -/
theorem next (counted : Counted numbers count) :
    Counted (numbers ++ [count + 1]) (count + 1) := by
  have length : (numbers ++ [count + 1]).length = count + 1 := by
    rw [List.length_append, counted.count]
    rfl
  refine ⟨length.symm, ?_⟩
  rw [length, List.range'_1_concat, Nat.add_comm 1 count, counted.count]
  exact congrArg (· ++ _) counted.numbers

theorem ascending (counted : Counted numbers count) : numbers.Pairwise (· < ·) := by
  rw [counted.numbers]
  exact List.pairwise_lt_range'

theorem bounds (counted : Counted numbers count) {number : Nat} (member : number ∈ numbers) :
    1 ≤ number ∧ number ≤ count := by
  rw [counted.numbers, List.mem_range'_1] at member
  rw [counted.count]
  omega

end Counted

/-! ## Arrivals -/

namespace Table

variable {κ ν : Type} [Ord κ]

/-- The entries of a table whose keys another one had not. -/
def newcomers (before after : Table κ ν) : List (κ × ν) :=
  after.entries.filter fun entry => !before.contains entry.1

/-- The entries that come into a table while it goes through some others, in the order in which they
come. -/
def arrivals (before : Table κ ν) : List (Table κ ν) → List (κ × ν)
  | [] => []
  | after :: rest => newcomers before after ++ arrivals after rest

/-- Who has come stays among those who have come, in the same order. -/
theorem arrivals_mono (before : Table κ ν) {first passed : List (Table κ ν)}
    (upTo : first <+: passed) : arrivals before first <+: arrivals before passed := by
  obtain ⟨rest, rfl⟩ := upTo
  induction first generalizing before with
  | nil => exact List.nil_prefix
  | cons after tail inductionHypothesis =>
    exact (List.prefix_append_right_inj _).mpr (inductionHypothesis after)

variable [Std.LawfulEqOrd κ]

theorem entries_nodup (table : Table κ ν) : table.entries.Nodup := .of_map Prod.fst table.keys_nodup

theorem newcomers_eq_nil {before after : Table κ ν}
    (known : ∀ key, after.contains key = true → before.contains key = true) :
    newcomers before after = [] := by
  refine List.filter_eq_nil_iff.mpr fun entry member => ?_
  have present := contains_of_get? (mem_entries_iff.mp member)
  rw [known entry.1 present]
  exact Bool.false_ne_true

/-- The only one who comes. -/
theorem newcomers_eq_singleton [DecidableEq κ] {before after : Table κ ν} {key : κ} {value : ν}
    (fresh : ¬ before.contains key = true) (found : after.get? key = some value)
    (known : ∀ other, other ≠ key → after.contains other = true → before.contains other = true) :
    newcomers before after = [(key, value)] := by
  have once : (newcomers before after).Nodup := after.entries_nodup.filter _
  have member (entry : κ × ν) : entry ∈ newcomers before after ↔ entry = (key, value) := by
    rw [newcomers, List.mem_filter, Bool.not_eq_true', ← Bool.not_eq_true]
    constructor
    · rintro ⟨present, new⟩
      have held := mem_entries_iff.mp present
      have same : entry.1 = key := by
        by_contra apart
        exact new (known entry.1 apart (contains_of_get? held))
      rw [same, found] at held
      exact Prod.ext same (Option.some.inj held).symm
    · rintro rfl
      exact ⟨mem_entries_iff.mpr found, fresh⟩
  refine List.perm_singleton.mp ((List.perm_ext_iff_of_nodup once (List.nodup_singleton _)).mpr ?_)
  intro entry
  rw [member, List.mem_singleton]

end Table

/-! ## Ledgers -/

/-- How the keys of a table are numbered, and what lasts of its values. -/
structure Numbering (κ ν : Type) where
  /-- How many numbers there are, zero included. -/
  size : Nat
  number : κ → Nat
  lasts : ν → ν → Prop
  refl : ∀ value, lasts value value
  trans : ∀ {first middle last}, lasts first middle → lasts middle last → lasts first last

namespace Numbering

variable {κ ν : Type} [Ord κ] (numbering : Numbering κ ν)

/-- A table and its counter come after others: nobody comes, or one entry whose key has the next
number. All others were there and last. -/
inductive Follows (before : Table κ ν) (count : Nat) (after : Table κ ν) : Nat → Prop where
  | nobody
      (known : ∀ key value, after.get? key = some value →
        ∃ old, before.get? key = some old ∧ numbering.lasts old value) :
      Follows before count after count
  | somebody (key : κ) (number : numbering.number key = (count + 1) % numbering.size)
      (present : after.contains key = true)
      (known : ∀ other value, other ≠ key → after.get? other = some value →
        ∃ old, before.get? other = some old ∧ numbering.lasts old value) :
      Follows before count after (numbering.number key)

/-- The numbers of some entries. -/
def numbers (log : List (κ × ν)) : List Nat := log.map fun entry => numbering.number entry.1

/-- All who have come into a table: the counter has counted them, and whoever is there is one of
them and has lasted. -/
structure Ledger (log : List (κ × ν)) (table : Table κ ν) (count : Nat) : Prop where
  counted : Counted (numbering.numbers log) count
  known : ∀ key value, table.get? key = some value →
    ∃ original, (key, original) ∈ log ∧ numbering.lasts original value

namespace Ledger

variable {numbering} {log : List (κ × ν)} {before after : Table κ ν} {count next : Nat}

theorem empty : numbering.Ledger [] Table.empty 0 :=
  ⟨.none, fun _ _ found => nomatch found⟩

/-- The counter has counted all. -/
theorem count_eq (ledger : numbering.Ledger log before count) : count = log.length :=
  ledger.counted.count.trans (List.length_map _)

/-- Nobody has come twice. -/
theorem unique (ledger : numbering.Ledger log before count) {key : κ} {first second : ν}
    (here : (key, first) ∈ log) (there : (key, second) ∈ log) : first = second := by
  have once : (numbering.numbers log).Nodup := ledger.counted.ascending.imp Nat.ne_of_lt
  exact congrArg Prod.snd (List.inj_on_of_nodup_map once here there rfl)

/-- The keys in the table have numbers up to the counter. -/
theorem bounds (ledger : numbering.Ledger log before count) {key : κ}
    (present : before.contains key = true) :
    1 ≤ numbering.number key ∧ numbering.number key ≤ count := by
  obtain ⟨value, found⟩ := Table.contains_iff.mp present
  obtain ⟨original, member, _⟩ := ledger.known key value found
  exact ledger.counted.bounds (List.mem_map.mpr ⟨_, member, rfl⟩)

/-- The next number is greater than all others, or it is zero, which nobody has. -/
theorem fresh (ledger : numbering.Ledger log before count) (room : log.length < numbering.size)
    {key : κ} (number : numbering.number key = (count + 1) % numbering.size) :
    ¬ before.contains key = true := by
  intro old
  obtain ⟨low, high⟩ := ledger.bounds old
  rw [number] at low high
  have full := ledger.count_eq
  have small : count + 1 < numbering.size ∨ count + 1 = numbering.size := by omega
  obtain small | last := small
  · rw [Nat.mod_eq_of_lt small] at high
    omega
  · rw [last, Nat.mod_self] at low
    omega

variable [Std.LawfulEqOrd κ] [DecidableEq κ]

/-- **The ledger goes on**, as long as there are numbers left. -/
theorem follow (ledger : numbering.Ledger log before count)
    (follows : numbering.Follows before count after next)
    (room : (log ++ Table.newcomers before after).length < numbering.size) :
    numbering.Ledger (log ++ Table.newcomers before after) after next := by
  cases follows with
  | nobody known =>
    have nobody : Table.newcomers before after = [] := by
      refine Table.newcomers_eq_nil fun key present => ?_
      obtain ⟨value, found⟩ := Table.contains_iff.mp present
      obtain ⟨old, held, _⟩ := known key value found
      exact Table.contains_of_get? held
    rw [nobody, List.append_nil]
    refine ⟨ledger.counted, fun key value found => ?_⟩
    obtain ⟨old, held, lasts⟩ := known key value found
    obtain ⟨original, member, lasted⟩ := ledger.known key old held
    exact ⟨original, member, numbering.trans lasted lasts⟩
  | somebody key number present known =>
    obtain ⟨value, found⟩ := Table.contains_iff.mp present
    have full := ledger.count_eq
    have fresh : ¬ before.contains key = true := by
      rw [List.length_append] at room
      exact ledger.fresh (Nat.lt_of_le_of_lt (Nat.le_add_right _ _) room) number
    have one : Table.newcomers before after = [(key, value)] := by
      refine Table.newcomers_eq_singleton fresh found fun other apart present => ?_
      obtain ⟨value, found⟩ := Table.contains_iff.mp present
      obtain ⟨old, held, _⟩ := known other value apart found
      exact Table.contains_of_get? held
    rw [one, List.length_append, List.length_singleton, ← full] at room
    rw [Nat.mod_eq_of_lt room] at number
    rw [one, number]
    constructor
    case counted =>
      rw [numbers, List.map_append, List.map_singleton, number]
      exact ledger.counted.next
    case known =>
      intro other value' held
      by_cases here : other = key
      · subst here
        obtain rfl := Option.some.inj (found.symm.trans held)
        exact ⟨value, List.mem_append_right _ (List.mem_singleton_self _), numbering.refl value⟩
      · obtain ⟨old, held, lasts⟩ := known other value' here held
        obtain ⟨original, member, lasted⟩ := ledger.known other old held
        exact ⟨original, List.mem_append_left _ member, numbering.trans lasted lasts⟩

end Ledger
end Numbering
end Lockstep
