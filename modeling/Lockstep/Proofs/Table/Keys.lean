import Mathlib.Data.List.Induction
import Mathlib.Data.List.Perm.Subperm
import Lockstep.Table

/-!
# Keys of tables

The keys of a table are those that have a value (`Table.mem_keys`), each once and in ascending
order. Each operation has one law that says what it does to `contains`.
-/

set_option autoImplicit false

namespace Lockstep.Table

open Std (TransOrd LawfulEqOrd)

variable {κ ν : Type} [Ord κ]

theorem contains_iff {table : Table κ ν} {key : κ} :
    table.contains key = true ↔ ∃ value, table.get? key = some value :=
  Option.isSome_iff_exists

theorem contains_of_get? {table : Table κ ν} {key : κ} {value : ν}
    (held : table.get? key = some value) : table.contains key = true :=
  contains_iff.mpr ⟨value, held⟩

theorem get?_of_not_contains {table : Table κ ν} {key : κ}
    (absent : ¬ table.contains key = true) : table.get? key = none :=
  Option.not_isSome_iff_eq_none.mp absent

/-! ## What each operation does to `contains` -/

theorem contains_mapValues [LawfulEqOrd κ] {μ : Type} (table : Table κ ν) (change : κ → ν → μ)
    (key : κ) : (table.mapValues change).contains key = table.contains key := by
  rw [contains, get?_mapValues, Option.isSome_map]
  rfl

theorem contains_modify [LawfulEqOrd κ] (table : Table κ ν) (key probe : κ) (change : ν → ν) :
    (table.modify key change).contains probe = table.contains probe :=
  contains_mapValues table _ probe

variable [TransOrd κ] [LawfulEqOrd κ]

omit [TransOrd κ] in
theorem contains_erase_iff [DecidableEq κ] {table : Table κ ν} {key probe : κ} :
    (table.erase key).contains probe = true ↔ probe ≠ key ∧ table.contains probe = true := by
  rw [contains, get?_erase]
  by_cases same : probe = key
  · rw [if_pos same]
    exact ⟨fun held => absurd held (by simp), fun held => absurd same held.1⟩
  · rw [if_neg same]
    exact ⟨fun held => ⟨same, held⟩, fun held => held.2⟩

theorem contains_insert_iff [DecidableEq κ] {table : Table κ ν} {key probe : κ} {value : ν} :
    (table.insert key value).contains probe = true ↔ probe = key ∨ table.contains probe = true := by
  rw [contains, get?_insert]
  by_cases same : probe = key
  · rw [if_pos same]
    exact ⟨fun _ => .inl same, fun _ => rfl⟩
  · rw [if_neg same]
    exact ⟨fun held => .inr held, fun held => held.resolve_left same⟩

/-- What a table holds after something was put into it, it held before, or it was put there. -/
theorem eq_or_of_get?_insert {table : Table κ ν} {key probe : κ} {value held : ν}
    (found : (table.insert key value).get? probe = some held) :
    held = value ∨ table.get? probe = some held := by
  rcases get?_insert_eq_some_iff.mp found with ⟨-, same⟩ | ⟨-, earlier⟩
  · exact .inl same.symm
  · exact .inr earlier

omit [TransOrd κ] in
/-- What a table holds after a value was changed, it held before, or it is the changed value. -/
theorem eq_or_of_get?_modify {table : Table κ ν} {key probe : κ} {change : ν → ν} {held : ν}
    (found : (table.modify key change).get? probe = some held) :
    (∃ value, held = change value) ∨ table.get? probe = some held := by
  classical
  by_cases same : probe = key
  · subst same
    rw [get?_modify_self] at found
    obtain ⟨value, _, changed⟩ := Option.map_eq_some_iff.mp found
    exact .inl ⟨value, changed.symm⟩
  · rw [get?_modify_of_ne table same] at found
    exact .inr found

theorem contains_ofList_iff [DecidableEq κ] {entries : List (κ × ν)} {key : κ} :
    (ofList entries).contains key = true ↔ ∃ value, (key, value) ∈ entries := by
  induction entries using List.reverseRecOn with
  | nil => exact ⟨fun held => absurd held Bool.false_ne_true, fun ⟨_, member⟩ =>
      absurd member List.not_mem_nil⟩
  | append_singleton entries last inductionHypothesis =>
    rw [ofList, List.foldl_append, List.foldl_cons, List.foldl_nil, contains_insert_iff]
    refine (or_congr_right inductionHypothesis).trans ⟨?_, ?_⟩
    · rintro (rfl | ⟨value, member⟩)
      · exact ⟨last.2, List.mem_append_right _ (List.mem_singleton_self _)⟩
      · exact ⟨value, List.mem_append_left _ member⟩
    · rintro ⟨value, member⟩
      obtain earlier | here := List.mem_append.mp member
      · exact .inr ⟨value, earlier⟩
      · exact .inl (congrArg Prod.fst (List.mem_singleton.mp here))

/-- Nothing is left out when every entry passes. -/
theorem filter_eq_self {table : Table κ ν} {keep : κ → ν → Bool}
    (passes : ∀ key value, table.get? key = some value → keep key value = true) :
    table.filter keep = table := by
  refine ext_get? fun key => ?_
  rw [get?_filter]
  cases held : table.get? key with
  | none => rfl
  | some value => rw [Option.filter_some, if_pos (passes key value held)]

/-! ## Keys that are forgotten -/

section

variable [DecidableEq κ]

theorem erase_eq_self {table : Table κ ν} {key : κ} (absent : table.get? key = none) :
    table.erase key = table := by
  refine ext_get? fun probe => ?_
  by_cases same : probe = key
  · rw [same, get?_erase_self, absent]
  · rw [get?_erase_of_ne table same]

theorem erase_comm (table : Table κ ν) (first second : κ) :
    (table.erase first).erase second = (table.erase second).erase first := by
  refine ext_get? fun probe => ?_
  rw [get?_erase, get?_erase, get?_erase, get?_erase]
  split <;> split <;> rfl

theorem modify_erase (table : Table κ ν) (key other : κ) (change : ν → ν) :
    (table.erase other).modify key change = (table.modify key change).erase other := by
  refine ext_get? fun probe => ?_
  rw [get?_modify, get?_erase, get?_erase, get?_modify]
  split <;> split <;> rfl

/-- A value for one key, and no value for another one. -/
theorem insert_erase (table : Table κ ν) {key other : κ} (apart : key ≠ other) (value : ν) :
    (table.erase other).insert key value = (table.insert key value).erase other := by
  refine ext_get? fun probe => ?_
  rw [get?_insert, get?_erase, get?_erase, get?_insert]
  by_cases here : probe = key
  · rw [if_pos here, if_neg (here ▸ apart), if_pos here]
  · rw [if_neg here, if_neg here]

end

/-! ## Keys -/

omit [TransOrd κ] in
theorem mem_keys {table : Table κ ν} {key : κ} :
    key ∈ table.keys ↔ table.contains key = true := by
  rw [contains_iff]
  constructor
  · intro member
    obtain ⟨⟨same, value⟩, present, rfl⟩ := List.mem_map.mp member
    exact ⟨value, mem_entries_iff.mp present⟩
  · rintro ⟨value, held⟩
    exact List.mem_map.mpr ⟨(key, value), mem_entries_iff.mpr held, rfl⟩

omit [TransOrd κ] [LawfulEqOrd κ] in
theorem keys_ascending (table : Table κ ν) :
    table.keys.Pairwise fun first second => compare first second = .lt :=
  List.pairwise_map.mpr table.ordered

omit [TransOrd κ] in
theorem keys_nodup (table : Table κ ν) : table.keys.Nodup := by
  refine table.keys_ascending.imp fun {first second} before same => ?_
  have equal : compare first second = .eq := Std.compare_eq_iff_eq.mpr same
  rw [before] at equal
  exact absurd equal (by decide)

omit [TransOrd κ] in
/-- Each key comes once, after some others and before the rest. -/
theorem exists_keys_eq {table : Table κ ν} {key : κ} (present : table.contains key = true) :
    ∃ earlier later, table.keys = earlier ++ key :: later ∧ key ∉ earlier ∧ key ∉ later := by
  obtain ⟨earlier, later, split⟩ := List.append_of_mem (mem_keys.mpr present)
  have once : (earlier ++ key :: later).Nodup := split ▸ table.keys_nodup
  obtain ⟨_, rest, disjoint⟩ := List.nodup_append.mp once
  exact ⟨earlier, later, split, fun member => disjoint key member key List.mem_cons_self rfl,
    (List.nodup_cons.mp rest).1⟩

omit [TransOrd κ] in
theorem keys_erase [DecidableEq κ] (table : Table κ ν) (key : κ) :
    (table.erase key).keys = table.keys.filter (· ≠ key) := by
  rw [keys, keys, erase, filter, List.filter_map]
  refine congrArg _ (List.filter_congr fun entry _ => ?_)
  rw [Bool.eq_iff_iff, bne_iff_ne, Function.comp_apply, decide_eq_true_eq]
  exact not_congr (Std.compare_eq_iff_eq.trans eq_comm)

omit [TransOrd κ] [LawfulEqOrd κ] in
/-- A table without entries contains nothing. -/
theorem size_ne_zero_of_mem {table : Table κ ν} {key : κ} (member : key ∈ table.keys) :
    table.size ≠ 0 := by
  intro none
  rw [keys, List.length_eq_zero_iff.mp none] at member
  exact absurd member List.not_mem_nil

omit [TransOrd κ] in
/-- A table whose keys are all in a list has no more entries than the list. -/
theorem size_le_length [DecidableEq κ] {table : Table κ ν} {list : List κ}
    (covered : ∀ key, table.contains key = true → key ∈ list) : table.size ≤ list.length := by
  have count : table.keys.length = table.size := List.length_map _
  rw [← count]
  exact (List.subperm_of_subset table.keys_nodup fun key member =>
    covered key (mem_keys.mp member)).length_le

end Lockstep.Table
