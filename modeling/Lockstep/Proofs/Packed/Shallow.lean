import Lockstep.Proofs.Packed.RoundTrip
import Lockstep.Proofs.Packed.Size

/-!
# Shallow data

`Datum.Shallow` says that a datum is made of values in their shortest spelling, with numbers of no
more than eight bytes, and that its containers are nested no more than so many levels deep. It asks
nothing of lengths. Those are bounded once the spelling as a whole is: a shallow datum of less than
`2 ^ 32` bytes is one that reads back (`Datum.Shallow.read_write`). Every shallow datum can be set
aside (`Datum.Shallow.isReadable`).
-/

set_option autoImplicit false

namespace Lockstep

namespace Datum

/-- A datum that MessagePack can spell if it is not too long, with no more than so many containers
inside one another. -/
inductive Shallow : Nat → Datum → Prop where
  | null {levels : Nat} : Shallow levels .null
  | bool {levels : Nat} (value : Bool) : Shallow levels (.bool value)
  | int {levels : Nat} {value : Int} (low : -0x8000000000000000 ≤ value)
      (high : value < 0x10000000000000000) : Shallow levels (.int value)
  | text {levels : Nat} (value : String) : Shallow levels (.text value)
  | bytes {levels : Nat} (value : Bytes) : Shallow levels (.bytes value)
  | list {levels : Nat} {items : List Datum} (each : ∀ item ∈ items, Shallow levels item) :
      Shallow (levels + 1) (.list items)
  | map {levels : Nat} {entries : List (Datum × Datum)}
      (keys : ∀ entry ∈ entries, Shallow levels entry.1)
      (values : ∀ entry ∈ entries, Shallow levels entry.2) : Shallow (levels + 1) (.map entries)

/-! ## Sizes of parts -/

theorem size_map (entries : List (Datum × Datum)) :
    (Datum.map entries).size = (Packed.writeMapLength entries.length).length +
      (entries.map fun entry => entry.1.size + entry.2.size).sum := by
  refine (List.length_append).trans ?_
  rw [Packed.length_writeEntries]

/-- A map is no smaller than a key and its value. -/
theorem size_le_size_map {entries : List (Datum × Datum)} {entry : Datum × Datum}
    (member : entry ∈ entries) : entry.1.size + entry.2.size ≤ (Datum.map entries).size := by
  rw [size_map]
  exact Nat.le_trans (List.single_le_sum (fun _ _ => Nat.zero_le _) _
    (List.mem_map.mpr ⟨entry, member, rfl⟩)) (Nat.le_add_left _ _)

theorem length_le_size_bytes (value : Bytes) : value.length ≤ (Datum.bytes value).size := by
  have whole : (Datum.bytes value).size =
      (Packed.writeBytesLength value.length).length + value.length := List.length_append
  rw [whole]
  exact Nat.le_add_left _ _

/-- Every datum takes at least one byte. -/
theorem size_pos (datum : Datum) : 0 < datum.size := by
  have length (small base length : Nat) (markers : Option Nat × Nat × Nat) :
      0 < (Packed.writeLength small base markers length).length := by
    obtain ⟨one, two, four⟩ := markers
    cases one <;> simp only [Packed.writeLength] <;> repeat' split
    all_goals simp
  cases datum with
  | null | «foreign» | unreadable | padded => exact Nat.succ_pos _
  | bool value => cases value <;> exact Nat.one_pos
  | int value =>
    cases value with
    | ofNat value =>
      refine Nat.lt_of_lt_of_eq ?_ (Packed.length_writeNatural value).symm
      repeat' split
      all_goals simp
    | negSucc below =>
      refine Nat.lt_of_lt_of_eq ?_ (Packed.length_writeNegative below).symm
      repeat' split
      all_goals simp
  | text | garbled | bytes | list | map =>
    refine Nat.lt_of_lt_of_eq ?_ List.length_append.symm
    exact Nat.add_pos_left (length ..) _

/-- A list takes at least one byte for each item. -/
theorem length_le_size_list (items : List Datum) : items.length ≤ (Datum.list items).size := by
  have each : ∀ size ∈ items.map Datum.size, 1 ≤ size := by
    intro size member
    obtain ⟨item, _, rfl⟩ := List.mem_map.mp member
    exact item.size_pos
  have count := List.length_le_sum_of_one_le _ each
  rw [List.length_map] at count
  rw [size_list]
  exact Nat.le_trans count (Nat.le_add_left _ _)

/-- A map takes at least one byte for each entry. -/
theorem length_le_size_map (entries : List (Datum × Datum)) :
    entries.length ≤ (Datum.map entries).size := by
  have each : ∀ size ∈ entries.map fun entry => entry.1.size + entry.2.size, 1 ≤ size := by
    intro size member
    obtain ⟨entry, _, rfl⟩ := List.mem_map.mp member
    exact Nat.le_trans entry.1.size_pos (Nat.le_add_right _ _)
  have count := List.length_le_sum_of_one_le _ each
  rw [List.length_map] at count
  rw [size_map]
  exact Nat.le_trans count (Nat.le_add_left _ _)

/-! ## What can be set aside -/

theorem areReadable_iff {items : List Datum} :
    areReadable items = true ↔ ∀ item ∈ items, item.isReadable = true := by
  induction items with
  | nil => simp [areReadable]
  | cons item rest inductionHypothesis => simp [areReadable, inductionHypothesis]

theorem areEntriesReadable_iff {entries : List (Datum × Datum)} :
    areEntriesReadable entries = true ↔
      ∀ entry ∈ entries, entry.1.isReadable = true ∧ entry.2.isReadable = true := by
  induction entries with
  | nil => simp [areEntriesReadable]
  | cons entry rest inductionHypothesis => simp [areEntriesReadable, inductionHypothesis]

/-- Nothing in a shallow datum is unreadable. -/
theorem Shallow.isReadable {levels : Nat} {datum : Datum} (shallow : datum.Shallow levels) :
    datum.isReadable = true := by
  induction shallow with
  | null | bool | int | text | bytes => rfl
  | list _ inductionHypothesis => exact areReadable_iff.mpr inductionHypothesis
  | map _ _ keys values =>
    exact areEntriesReadable_iff.mpr fun entry member => ⟨keys entry member, values entry member⟩

/-! ## More levels, and the bounds of the format -/

theorem Shallow.mono {levels more : Nat} {datum : Datum} (shallow : datum.Shallow levels)
    (deeper : levels ≤ more) : datum.Shallow more := by
  induction shallow generalizing more with
  | null => exact .null
  | bool value => exact .bool value
  | int low high => exact .int low high
  | text value => exact .text value
  | bytes value => exact .bytes value
  | list _ inductionHypothesis =>
    obtain ⟨inner, rfl⟩ := Nat.exists_eq_add_one_of_ne_zero (Nat.ne_zero_of_lt deeper)
    have fewer := Nat.le_of_succ_le_succ deeper
    exact .list fun item member => inductionHypothesis item member fewer
  | map _ _ keys values =>
    obtain ⟨inner, rfl⟩ := Nat.exists_eq_add_one_of_ne_zero (Nat.ne_zero_of_lt deeper)
    have fewer := Nat.le_of_succ_le_succ deeper
    exact .map (fun entry member => keys entry member fewer)
      fun entry member => values entry member fewer

/-- What can be spelled is shallow. -/
theorem Spellable.shallow {depth : Nat} {datum : Datum} (spellable : datum.Spellable depth) :
    datum.Shallow (depth - 1) := by
  induction depth generalizing datum with
  | zero => exact spellable.elim
  | succ depth inductionHypothesis =>
    cases datum with
    | null => exact .null
    | bool value => exact .bool value
    | int value => exact .int spellable.1 spellable.2
    | text value => exact .text value
    | bytes value => exact .bytes value
    | list items =>
      obtain ⟨deep, _, each⟩ := spellable
      obtain ⟨levels, rfl⟩ := Nat.exists_eq_add_one_of_ne_zero (Nat.ne_of_gt deep)
      exact .list fun item member => inductionHypothesis (each item member)
    | map entries =>
      obtain ⟨deep, _, each⟩ := spellable
      obtain ⟨levels, rfl⟩ := Nat.exists_eq_add_one_of_ne_zero (Nat.ne_of_gt deep)
      exact .map (fun entry member => inductionHypothesis (each entry member).1)
        fun entry member => inductionHypothesis (each entry member).2
    | padded | garbled | «foreign» | unreadable => exact spellable.elim

/-- A shallow datum that is not too long can be spelled, since no part of it is longer than the
whole. -/
theorem Shallow.spellable {levels : Nat} {datum : Datum} (shallow : datum.Shallow levels)
    (short : datum.size < 0x100000000) : datum.Spellable (levels + 1) := by
  induction shallow with
  | null | bool => trivial
  | int low high => exact ⟨low, high⟩
  | text value => exact Nat.lt_of_le_of_lt (utf8ByteSize_le_size value) short
  | bytes value => exact Nat.lt_of_le_of_lt (length_le_size_bytes value) short
  | @list levels items _ inductionHypothesis =>
    refine ⟨Nat.succ_pos levels, Nat.lt_of_le_of_lt (length_le_size_list items) short, ?_⟩
    intro item member
    exact inductionHypothesis item member (Nat.lt_of_le_of_lt (size_le_size_list member) short)
  | @map levels entries _ _ keys values =>
    refine ⟨Nat.succ_pos levels, Nat.lt_of_le_of_lt (length_le_size_map entries) short, ?_⟩
    intro entry member
    have both := Nat.lt_of_le_of_lt (size_le_size_map member) short
    exact ⟨keys entry member (Nat.lt_of_le_of_lt (Nat.le_add_right _ _) both),
      values entry member (Nat.lt_of_le_of_lt (Nat.le_add_left _ _) both)⟩

/-- **A shallow datum that is not too long is read back**, whatever bytes follow it. -/
theorem Shallow.read_write {levels : Nat} {datum : Datum} (shallow : datum.Shallow levels)
    (few : levels < 1024) (short : datum.size < 0x100000000) (rest : Bytes) :
    Packed.read (Packed.write datum ++ rest) = some (datum, rest) :=
  Packed.read_write ((shallow.mono (Nat.le_of_lt_succ few)).spellable short) rest

end Datum
end Lockstep
