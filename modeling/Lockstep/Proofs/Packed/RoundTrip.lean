import Lockstep.Packed

/-!
# Data in MessagePack reads back

What `Packed.write` spells, followed by anything, is read back by `Packed.read`, and what follows
is left over (`read_write`). The format bounds what can be spelled: a number has at most eight
bytes, every text, byte string, list and map is shorter than `2 ^ 32`, and the reader follows
containers only so deep. `Datum.Spellable` says that a datum keeps these bounds and is made of
values in their shortest spelling.

The proof follows the writer. Each way to spell a length leads the reader to the body that the
length belongs to (`readNested_textLength` and its companions), each number is read by the width
that was the shortest for it (`readNested_writeInt`), and a container is read item by item.
-/

set_option autoImplicit false

namespace Lockstep

/-- A datum that MessagePack can spell, with containers nested less than `depth` deep. -/
def Datum.Spellable : Nat → Datum → Prop
  | 0, _ => False
  | _ + 1, .null | _ + 1, .bool _ => True
  | _ + 1, .int value => -0x8000000000000000 ≤ value ∧ value < 0x10000000000000000
  | _ + 1, .text value => (Bytes.ofText value).length < 0x100000000
  | _ + 1, .bytes value => value.length < 0x100000000
  | depth + 1, .list items =>
    0 < depth ∧ items.length < 0x100000000 ∧ ∀ item ∈ items, item.Spellable depth
  | depth + 1, .map entries =>
    0 < depth ∧ entries.length < 0x100000000 ∧
      ∀ entry ∈ entries, entry.1.Spellable depth ∧ entry.2.Spellable depth
  | _ + 1, _ => False

namespace Packed

open Bytes (bigEndian capacity readBig takeExactly)

/-! ## Lengths -/

theorem toNat_marker {code : Nat} (small : code < 0x100) : (UInt8.ofNat code).toNat = code := by
  rw [UInt8.toNat_ofNat', Nat.mod_eq_of_lt small]

theorem readWithLength_bigEndian (width : Nat) (body : Nat → Bytes → Option (Datum × Bytes))
    {length : Nat} (fits : length < capacity width) (rest : Bytes) :
    readWithLength width body (bigEndian width length ++ rest) = body length rest := by
  rw [readWithLength, Bytes.readBig_bigEndian width length rest fits]
  rfl

/-- The items of a list that stands in a datum nested `depth + 1` deep. -/
def readList (depth length : Nat) (bytes : Bytes) : Option (Datum × Bytes) :=
  if depth = 0 then none
  else (readMany (readNested depth) length bytes []).map fun (items, rest) => (.list items, rest)

/-- The entries of a map that stands in a datum nested `depth + 1` deep. -/
def readMap (depth length : Nat) (bytes : Bytes) : Option (Datum × Bytes) :=
  if depth = 0 then none
  else (readPairs (readNested depth) length bytes []).map fun (entries, rest) => (.map entries, rest)

-- The match on markers has a case for each of them, and unfolding it with a marker that is not
-- a numeral goes through all.
section

set_option maxRecDepth 2000

theorem readNested_fixText (depth : Nat) {length : Nat} (small : length < 0x20) (rest : Bytes) :
    readNested (depth + 1) (UInt8.ofNat (0xA0 + length) :: rest) = readText length rest := by
  have code : (UInt8.ofNat (0xA0 + length)).toNat = 0xA0 + length := toNat_marker (by omega)
  simp only [readNested, code, Nat.add_sub_cancel_left]
  rw [if_neg (by omega), if_neg (by omega), if_neg (by omega), if_pos (by omega)]

theorem readNested_fixList (depth : Nat) {length : Nat} (small : length < 0x10) (rest : Bytes) :
    readNested (depth + 1) (UInt8.ofNat (0x90 + length) :: rest) = readList depth length rest := by
  have code : (UInt8.ofNat (0x90 + length)).toNat = 0x90 + length := toNat_marker (by omega)
  simp only [readNested, code, Nat.add_sub_cancel_left]
  rw [if_neg (by omega), if_neg (by omega), if_pos (by omega)]
  rfl

theorem readNested_fixMap (depth : Nat) {length : Nat} (small : length < 0x10) (rest : Bytes) :
    readNested (depth + 1) (UInt8.ofNat (0x80 + length) :: rest) = readMap depth length rest := by
  have code : (UInt8.ofNat (0x80 + length)).toNat = 0x80 + length := toNat_marker (by omega)
  simp only [readNested, code, Nat.add_sub_cancel_left]
  rw [if_neg (by omega), if_pos (by omega)]
  rfl

theorem readNested_fixNatural (depth : Nat) {value : Nat} (small : value < 0x80) (rest : Bytes) :
    readNested (depth + 1) (UInt8.ofNat value :: rest) = some (.int value, rest) := by
  have code : (UInt8.ofNat value).toNat = value := toNat_marker (by omega)
  simp only [readNested, code]
  rw [if_pos small]

theorem readNested_fixNegative (depth : Nat) {below : Nat} (small : below < 0x20) (rest : Bytes) :
    readNested (depth + 1) (UInt8.ofNat (0xFF - below) :: rest) =
      some (.int (.negSucc below), rest) := by
  have code : (UInt8.ofNat (0xFF - below)).toNat = 0xFF - below := toNat_marker (by omega)
  have value : ((0xFF - below : Nat) : Int) - 0x100 = .negSucc below := by omega
  simp only [readNested, code]
  rw [if_neg (by omega), if_neg (by omega), if_neg (by omega), if_neg (by omega),
    if_pos (by omega), value]

end

theorem readNested_textLength (depth : Nat) {length : Nat} (short : length < 0x100000000)
    (rest : Bytes) :
    readNested (depth + 1) (writeTextLength length ++ rest) = readText length rest := by
  simp only [writeTextLength, writeLength]
  split
  · exact readNested_fixText depth ‹_› rest
  split
  · exact readWithLength_bigEndian 1 readText ‹_› rest
  split
  · exact readWithLength_bigEndian 2 readText ‹_› rest
  · exact readWithLength_bigEndian 4 readText short rest

theorem readNested_bytesLength (depth : Nat) {length : Nat} (short : length < 0x100000000)
    (rest : Bytes) :
    readNested (depth + 1) (writeBytesLength length ++ rest) = readBytes length rest := by
  simp only [writeBytesLength, writeLength, Nat.not_lt_zero, if_false]
  split
  · exact readWithLength_bigEndian 1 readBytes ‹_› rest
  split
  · exact readWithLength_bigEndian 2 readBytes ‹_› rest
  · exact readWithLength_bigEndian 4 readBytes short rest

theorem readNested_listLength (depth : Nat) {length : Nat} (short : length < 0x100000000)
    (rest : Bytes) :
    readNested (depth + 1) (writeListLength length ++ rest) = readList depth length rest := by
  simp only [writeListLength, writeLength]
  split
  · exact readNested_fixList depth ‹_› rest
  split
  · exact readWithLength_bigEndian 2 (readList depth) ‹_› rest
  · exact readWithLength_bigEndian 4 (readList depth) short rest

theorem readNested_mapLength (depth : Nat) {length : Nat} (short : length < 0x100000000)
    (rest : Bytes) :
    readNested (depth + 1) (writeMapLength length ++ rest) = readMap depth length rest := by
  simp only [writeMapLength, writeLength]
  split
  · exact readNested_fixMap depth ‹_› rest
  split
  · exact readWithLength_bigEndian 2 (readMap depth) ‹_› rest
  · exact readWithLength_bigEndian 4 (readMap depth) short rest

/-! ## Numbers -/

theorem readNatural_bigEndian (width : Nat) {value : Nat} (fits : value < capacity width)
    (shortest : (writeNatural value).length = width + 1) (rest : Bytes) :
    readNatural width (bigEndian width value ++ rest) = some (.int value, rest) := by
  have own : isShortest width false (value : Int) = true := by
    simpa [isShortest, writeInt] using shortest
  rw [readNatural, Bytes.readBig_bigEndian width value rest fits]
  simp only [Option.map_some, numberIn, own, if_true]

/-- The two's-complement digits of a negative number are those of its distance from the bound. -/
theorem signed_complement (width : Nat) {below : Nat} (fits : 2 * below + 1 < capacity width) :
    signed width (capacity width - 1 - below) = .negSucc below := by
  rw [signed, if_neg (by omega)]
  omega

theorem readSigned_bigEndian (width : Nat) {below : Nat} (fits : 2 * below + 1 < capacity width)
    (shortest : (writeNegative below).length = width + 1) (rest : Bytes) :
    readSigned width (bigEndian width (capacity width - 1 - below) ++ rest) =
      some (.int (.negSucc below), rest) := by
  have own : isShortest width true (.negSucc below) = true := by
    simpa [isShortest, writeInt] using shortest
  rw [readSigned, Bytes.readBig_bigEndian width _ rest (by omega)]
  simp only [Option.map_some, signed_complement width fits, numberIn, own, if_true]

theorem readNested_writeNatural (depth : Nat) {value : Nat} (fits : value < 0x10000000000000000)
    (rest : Bytes) :
    readNested (depth + 1) (writeNatural value ++ rest) = some (.int value, rest) := by
  by_cases one : value < 0x80
  · have spelling : writeNatural value = [UInt8.ofNat value] := by simp [writeNatural, one]
    rw [spelling]
    exact readNested_fixNatural depth one rest
  by_cases two : value < 0x100
  · have spelling : writeNatural value = 0xCC :: bigEndian 1 value := by
      simp [writeNatural, one, two]
    rw [spelling]
    exact readNatural_bigEndian 1 two (by simp [spelling]) rest
  by_cases three : value < 0x10000
  · have spelling : writeNatural value = 0xCD :: bigEndian 2 value := by
      simp [writeNatural, one, two, three]
    rw [spelling]
    exact readNatural_bigEndian 2 three (by simp [spelling]) rest
  by_cases five : value < 0x100000000
  · have spelling : writeNatural value = 0xCE :: bigEndian 4 value := by
      simp [writeNatural, one, two, three, five]
    rw [spelling]
    exact readNatural_bigEndian 4 five (by simp [spelling]) rest
  · have spelling : writeNatural value = 0xCF :: bigEndian 8 value := by
      simp [writeNatural, one, two, three, five]
    rw [spelling]
    exact readNatural_bigEndian 8 fits (by simp [spelling]) rest

theorem readNested_writeNegative (depth : Nat) {below : Nat} (fits : below < 0x8000000000000000)
    (rest : Bytes) :
    readNested (depth + 1) (writeNegative below ++ rest) = some (.int (.negSucc below), rest) := by
  by_cases one : below < 0x20
  · have spelling : writeNegative below = [UInt8.ofNat (0xFF - below)] := by
      simp [writeNegative, one]
    rw [spelling]
    exact readNested_fixNegative depth one rest
  by_cases two : below < 0x80
  · have spelling : writeNegative below = 0xD0 :: bigEndian 1 (0xFF - below) := by
      simp [writeNegative, one, two]
    rw [spelling]
    have bound : 2 * below + 1 < 0x100 := by omega
    exact readSigned_bigEndian 1 bound (by simp [spelling]) rest
  by_cases three : below < 0x8000
  · have spelling : writeNegative below = 0xD1 :: bigEndian 2 (0xFFFF - below) := by
      simp [writeNegative, one, two, three]
    rw [spelling]
    have bound : 2 * below + 1 < 0x10000 := by omega
    exact readSigned_bigEndian 2 bound (by simp [spelling]) rest
  by_cases five : below < 0x80000000
  · have spelling : writeNegative below = 0xD2 :: bigEndian 4 (0xFFFFFFFF - below) := by
      simp [writeNegative, one, two, three, five]
    rw [spelling]
    have bound : 2 * below + 1 < 0x100000000 := by omega
    exact readSigned_bigEndian 4 bound (by simp [spelling]) rest
  · have spelling : writeNegative below = 0xD3 :: bigEndian 8 (0xFFFFFFFFFFFFFFFF - below) := by
      simp [writeNegative, one, two, three, five]
    rw [spelling]
    have bound : 2 * below + 1 < 0x10000000000000000 := by omega
    exact readSigned_bigEndian 8 bound (by simp [spelling]) rest

theorem readNested_writeInt (depth : Nat) {value : Int} (low : -0x8000000000000000 ≤ value)
    (high : value < 0x10000000000000000) (rest : Bytes) :
    readNested (depth + 1) (writeInt value ++ rest) = some (.int value, rest) := by
  cases value with
  | ofNat value =>
    rw [Int.ofNat_eq_natCast] at high
    exact readNested_writeNatural depth (by omega) rest
  | negSucc below => exact readNested_writeNegative depth (by omega) rest

/-! ## Containers -/

/-- Items that are read back one by one are read back as a list. -/
theorem readMany_writeItems (readOne : Bytes → Option (Datum × Bytes)) (items : List Datum)
    (each : ∀ item ∈ items, ∀ rest, readOne (write item ++ rest) = some (item, rest))
    (rest : Bytes) (reversed : List Datum) :
    readMany readOne items.length (writeItems items ++ rest) reversed =
      some (reversed.reverse ++ items, rest) := by
  induction items generalizing reversed with
  | nil => simp [writeItems, readMany]
  | cons item items inductionHypothesis =>
    have later := inductionHypothesis (fun other member => each other (.tail item member))
      (item :: reversed)
    rw [writeItems, List.append_assoc, List.length_cons, readMany, each item (.head items)]
    simpa using later

/-- Entries whose keys and values are read back one by one are read back as a map. -/
theorem readPairs_writeEntries (readOne : Bytes → Option (Datum × Bytes))
    (entries : List (Datum × Datum))
    (each : ∀ entry ∈ entries, ∀ rest, readOne (write entry.1 ++ rest) = some (entry.1, rest) ∧
      readOne (write entry.2 ++ rest) = some (entry.2, rest))
    (rest : Bytes) (reversed : List (Datum × Datum)) :
    readPairs readOne entries.length (writeEntries entries ++ rest) reversed =
      some (reversed.reverse ++ entries, rest) := by
  induction entries generalizing reversed with
  | nil => simp [writeEntries, readPairs]
  | cons entry entries inductionHypothesis =>
    obtain ⟨key, value⟩ := entry
    have later := inductionHypothesis (fun other member => each other (.tail (key, value) member))
      ((key, value) :: reversed)
    have here := each (key, value) (.head entries)
    rw [writeEntries, List.append_assoc, List.append_assoc, List.length_cons, readPairs,
      (here _).1]
    simp only [(here _).2]
    simpa using later

/-! ## The whole reader -/

/-- What was written is read back, whatever follows it. -/
theorem readNested_write (depth : Nat) (datum : Datum) (spellable : datum.Spellable depth)
    (rest : Bytes) : readNested depth (write datum ++ rest) = some (datum, rest) := by
  induction depth generalizing datum rest with
  | zero => exact spellable.elim
  | succ depth inductionHypothesis =>
    cases datum with
    | null => rfl
    | bool value => cases value <;> rfl
    | int value => exact readNested_writeInt depth spellable.1 spellable.2 rest
    | text value =>
      rw [write, writeText, List.append_assoc, readNested_textLength depth spellable, readText,
        Bytes.takeExactly_append]
      simp
    | bytes value =>
      rw [write, List.append_assoc, readNested_bytesLength depth spellable, readBytes,
        Bytes.takeExactly_append]
      rfl
    | list items =>
      obtain ⟨deep, short, each⟩ := spellable
      have read := readMany_writeItems (readNested depth) items
        (fun item member rest => inductionHypothesis item (each item member) rest) rest []
      rw [write, List.append_assoc, readNested_listLength depth short, readList,
        if_neg (by omega), read]
      rfl
    | map entries =>
      obtain ⟨deep, short, each⟩ := spellable
      have read := readPairs_writeEntries (readNested depth) entries
        (fun entry member rest => ⟨inductionHypothesis entry.1 (each entry member).1 rest,
          inductionHypothesis entry.2 (each entry member).2 rest⟩) rest []
      rw [write, List.append_assoc, readNested_mapLength depth short, readMap,
        if_neg (by omega), read]
      rfl
    | padded | garbled | «foreign» | unreadable => exact spellable.elim

/-- **What was written is read back**, and the bytes that follow it are left over. -/
theorem read_write {datum : Datum} (spellable : datum.Spellable 1024) (rest : Bytes) :
    read (write datum ++ rest) = some (datum, rest) :=
  readNested_write 1024 datum spellable rest

/-- The spelling of a datum tells where it ends: no spelling is the beginning of another one. -/
theorem write_append_inj {first second : Datum} (firstSpellable : first.Spellable 1024)
    (secondSpellable : second.Spellable 1024) {rest other : Bytes}
    (same : write first ++ rest = write second ++ other) : first = second ∧ rest = other := by
  have read := read_write secondSpellable other
  rw [← same, read_write firstSpellable rest] at read
  exact Prod.mk.inj (Option.some.inj read)

end Packed
end Lockstep
