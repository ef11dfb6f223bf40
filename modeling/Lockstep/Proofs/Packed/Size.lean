import Mathlib.Algebra.Order.BigOperators.Group.List
import Mathlib.Algebra.Order.Ring.Nat
import Lockstep.Datum.Written
import Lockstep.Packed

/-!
# Sizes of data in MessagePack

`Datum.size` counts the bytes that a datum takes. A number takes no more than its type has room for
and one byte more, and a text, a byte string and a list take what is in them and a length of no more
than five bytes. A record with few fields takes its keys, its values and one byte
(`Datum.size_record`).
-/

set_option autoImplicit false

namespace Lockstep

/-- How many bytes a datum takes in MessagePack. -/
def Datum.size (datum : Datum) : Nat := (Packed.write datum).length

namespace Packed

/-! ## Lengths -/

theorem length_writeLength_le (small base length : Nat) (markers : Option Nat × Nat × Nat) :
    (writeLength small base markers length).length ≤ 5 := by
  obtain ⟨one, two, four⟩ := markers
  cases one <;> simp only [writeLength] <;> repeat' split
  all_goals simp

theorem length_writeLength_of_lt {small base length : Nat} (markers : Option Nat × Nat × Nat)
    (short : length < small) : (writeLength small base markers length).length = 1 := by
  obtain ⟨one, two, four⟩ := markers
  cases one <;> simp only [writeLength, if_pos short, List.length_singleton]

theorem length_writeNatural (value : Nat) :
    (writeNatural value).length =
      if value < 0x80 then 1
      else if value < 0x100 then 2
      else if value < 0x10000 then 3
      else if value < 0x100000000 then 5
      else 9 := by
  rw [writeNatural]
  repeat' split
  all_goals simp

theorem length_writeNegative (below : Nat) :
    (writeNegative below).length =
      if below < 0x20 then 1
      else if below < 0x80 then 2
      else if below < 0x8000 then 3
      else if below < 0x80000000 then 5
      else 9 := by
  rw [writeNegative]
  repeat' split
  all_goals simp

theorem length_writeItems (items : List Datum) :
    (writeItems items).length = (items.map Datum.size).sum := by
  induction items with
  | nil => simp [writeItems]
  | cons item rest inductionHypothesis =>
    simp only [writeItems, List.length_append, List.map_cons, List.sum_cons, inductionHypothesis]
    rfl

theorem length_writeEntries (entries : List (Datum × Datum)) :
    (writeEntries entries).length = (entries.map fun entry => entry.1.size + entry.2.size).sum := by
  induction entries with
  | nil => simp [writeEntries]
  | cons entry rest inductionHypothesis =>
    simp only [writeEntries, List.length_append, List.map_cons, List.sum_cons,
      inductionHypothesis, Nat.add_assoc]
    rfl

end Packed

namespace Datum

/-! ## Numbers -/

theorem size_uint16_le (value : UInt16) : (Written.write value).size ≤ 3 := by
  have bound := value.toNat_lt
  refine (Packed.length_writeNatural value.toNat).trans_le ?_
  repeat' split
  all_goals omega

theorem size_uint32_le (value : UInt32) : (Written.write value).size ≤ 5 := by
  have bound := value.toNat_lt
  refine (Packed.length_writeNatural value.toNat).trans_le ?_
  repeat' split
  all_goals omega

theorem size_uint64_le (value : UInt64) : (Written.write value).size ≤ 9 := by
  refine (Packed.length_writeNatural value.toNat).trans_le ?_
  repeat' split
  all_goals omega

/-- A number that is not far from zero. -/
theorem size_int_le {value : Int} {bound size : Nat} (low : -bound ≤ value) (high : value < bound)
    (fits : bound ≤ 0x8000 ∧ 3 ≤ size ∨ bound ≤ 0x80000000 ∧ 5 ≤ size) :
    (Datum.int value).size ≤ size := by
  cases value with
  | ofNat value =>
    have below : value < bound := Int.ofNat_lt.mp high
    refine (Packed.length_writeNatural value).trans_le ?_
    repeat' split
    all_goals omega
  | negSucc below =>
    have above : below < bound := by omega
    refine (Packed.length_writeNegative below).trans_le ?_
    repeat' split
    all_goals omega

theorem size_int16_le (value : Int16) : (Written.write value).size ≤ 3 :=
  @size_int_le _ 0x8000 3 value.le_toInt value.toInt_lt (.inl ⟨Nat.le_refl _, Nat.le_refl _⟩)

theorem size_int32_le (value : Int32) : (Written.write value).size ≤ 5 :=
  @size_int_le _ 0x80000000 5 value.le_toInt value.toInt_lt (.inr ⟨Nat.le_refl _, Nat.le_refl _⟩)

/-! ## Texts, byte strings and lists -/

theorem size_text (text : String) :
    (Datum.text text).size = (Packed.writeTextLength text.utf8ByteSize).length + text.utf8ByteSize :=
  List.length_append

theorem utf8ByteSize_le_size (text : String) : text.utf8ByteSize ≤ (Datum.text text).size := by
  rw [size_text]
  exact Nat.le_add_left _ _

theorem size_text_le (text : String) : (Datum.text text).size ≤ 5 + text.utf8ByteSize := by
  rw [size_text]
  exact Nat.add_le_add_right (Packed.length_writeLength_le ..) _

theorem size_bytes_le (value : Bytes) : (Datum.bytes value).size ≤ 5 + value.length := by
  have whole : (Datum.bytes value).size =
      (Packed.writeBytesLength value.length).length + value.length := List.length_append
  rw [whole]
  exact Nat.add_le_add_right (Packed.length_writeLength_le ..) _

theorem size_list (items : List Datum) :
    (Datum.list items).size = (Packed.writeListLength items.length).length +
      (items.map size).sum := by
  refine (List.length_append).trans ?_
  rw [Packed.length_writeItems]

theorem size_list_le (items : List Datum) :
    (Datum.list items).size ≤ 5 + (items.map size).sum := by
  rw [size_list]
  exact Nat.add_le_add_right (Packed.length_writeLength_le ..) _

/-- A list is no smaller than an item. -/
theorem size_le_size_list {items : List Datum} {item : Datum} (member : item ∈ items) :
    item.size ≤ (Datum.list items).size := by
  rw [size_list]
  exact Nat.le_trans (List.single_le_sum (fun _ _ => Nat.zero_le _) _
    (List.mem_map.mpr ⟨item, member, rfl⟩)) (Nat.le_add_left _ _)

/-- A list whose items all have a bound. -/
theorem size_list_le_of_forall {items : List Datum} {bound : Nat}
    (each : ∀ item ∈ items, item.size ≤ bound) :
    (Datum.list items).size ≤ 5 + items.length * bound := by
  refine Nat.le_trans (size_list_le items) (Nat.add_le_add_left ?_ 5)
  rw [← List.length_map size]
  refine List.sum_le_card_nsmul _ _ fun size member => ?_
  obtain ⟨item, present, rfl⟩ := List.mem_map.mp member
  exact each item present

/-! ## Records -/

/-- The bytes of the keys of some fields. -/
def keysSize (fields : List (String × Datum)) : Nat :=
  (fields.map fun field => (Datum.text field.1).size).sum

/-- The bytes of the values of some fields. -/
def valuesSize (fields : List (String × Datum)) : Nat :=
  (fields.map fun field => field.2.size).sum

theorem keysSize_append (fields others : List (String × Datum)) :
    keysSize (fields ++ others) = keysSize fields + keysSize others := by
  rw [keysSize, List.map_append, List.sum_append]
  rfl

theorem valuesSize_append (fields others : List (String × Datum)) :
    valuesSize (fields ++ others) = valuesSize fields + valuesSize others := by
  rw [valuesSize, List.map_append, List.sum_append]
  rfl

/-- A value that may be left out takes no more than one that is there. -/
theorem size_optionalField_le {α : Type} {name : String} {write : α → Datum} {bound : Nat}
    (each : ∀ value, (write value).size ≤ bound) (value : Option α) :
    keysSize (optionalField name write value) + valuesSize (optionalField name write value) ≤
      (Datum.text name).size + bound := by
  cases value with
  | none => exact Nat.zero_le _
  | some value => exact Nat.add_le_add_left (each value) _

theorem size_record {fields : List (String × Datum)} (few : fields.length < 16) :
    (record fields).size = 1 + (keysSize fields + valuesSize fields) := by
  refine (List.length_append).trans ?_
  rw [Packed.length_writeEntries, Packed.writeMapLength, List.length_map,
    Packed.length_writeLength_of_lt _ few, List.map_map, keysSize, valuesSize,
    ← List.sum_map_add]
  rfl

end Datum
end Lockstep
