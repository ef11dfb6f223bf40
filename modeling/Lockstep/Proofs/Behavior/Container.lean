import Lockstep.Behavior.Container
import Lockstep.Proofs.Except

/-!
# Containers and the behaviors in them

The reader accepts what the writer writes, and nothing else (`Behavior.ofBytes_exact`). A behavior
that a container has room for is read from its own bytes, whatever follows them, and a byte string
from which a behavior is read begins with the bytes of that behavior. So no two containers hold the
same behavior, and no container is the beginning of another.

Each reader has one law that says what it accepts and what it leaves (`readWord_eq_ok_iff`,
`readInstruction_eq_ok_iff`, `readInstructions_eq_ok_iff`). The whole container follows field by
field.
-/

set_option autoImplicit false

namespace Lockstep

open Bytes (littleEndian capacity readLittle takeExactly)

/-! ## Parts of byte strings -/

theorem Bytes.takeExactly_eq_some_iff {count : Nat} {bytes head rest : Bytes} :
    takeExactly count bytes = some (head, rest) ↔ head.length = count ∧ bytes = head ++ rest := by
  constructor
  · intro taken
    exact (Bytes.eq_append_of_takeExactly taken).symm
  · rintro ⟨rfl, rfl⟩
    exact Bytes.takeExactly_append head rest

theorem Bytes.readLittle_eq_some_iff {width number : Nat} {bytes rest : Bytes} :
    readLittle width bytes = some (number, rest) ↔
      number < capacity width ∧ bytes = littleEndian width number ++ rest := by
  constructor
  · intro read
    obtain ⟨⟨head, _⟩, taken, same⟩ := Option.map_eq_some_iff.mp read
    obtain ⟨rfl, rfl⟩ := Prod.mk.inj same
    obtain ⟨rfl, rfl⟩ := Bytes.takeExactly_eq_some_iff.mp taken
    exact ⟨Bytes.ofLittleEndian_lt head, by rw [Bytes.littleEndian_ofLittleEndian]⟩
  · rintro ⟨fits, rfl⟩
    exact Bytes.readLittle_littleEndian width number rest fits

theorem Bytes.text?_eq_some_iff {bytes : Bytes} {text : String} :
    bytes.text? = some text ↔ bytes = Bytes.ofText text := by
  constructor
  · intro spelled
    simp only [Bytes.text?, String.fromUTF8?, Option.dite_none_right_eq_some, Option.some.injEq]
      at spelled
    obtain ⟨valid, rfl⟩ := spelled
    rfl
  · rintro rfl
    exact Bytes.text?_ofText text

theorem Bytes.length_ofText (text : String) : (Bytes.ofText text).length = text.utf8ByteSize :=
  String.size_toByteArray

/-! ## Operand buffers -/

/-- A buffer begins with the bytes that it was made from, and holds nothing but zeros after them. -/
theorem toList_operandBuffer {bytes : Bytes} (short : bytes.length ≤ 16) :
    (operandBuffer bytes).toList = bytes ++ List.replicate (16 - bytes.length) 0 := by
  refine List.ext_getElem (by simp; omega) fun place inside _ => ?_
  simp only [operandBuffer, Vector.getElem_toList, Vector.getElem_ofFn]
  rcases Nat.lt_or_ge place bytes.length with within | beyond
  · simp [List.getElem_append_left within, within]
  · simp [List.getElem_append_right beyond, beyond]

theorem operandBuffer_toList (buffer : Vector UInt8 16) : operandBuffer buffer.toList = buffer := by
  rw [← Vector.toList_inj, toList_operandBuffer (by simp)]
  simp

namespace Behavior

/-! ## Names -/

/-- A name that fits is not cut. -/
theorem cutName_of_fits (text : List Char) {room : Nat}
    (fits : (String.ofList text).utf8ByteSize ≤ room) : cutName room text = text := by
  induction text generalizing room with
  | nil => rfl
  | cons character rest inductionHypothesis =>
    rw [String.ofList_cons, String.utf8ByteSize_append, String.utf8ByteSize_singleton] at fits
    rw [cutName, if_pos (by omega), inductionHypothesis (by omega)]

theorem nameBytes_of_fits {name : String} (fits : name.utf8ByteSize ≤ 255) :
    nameBytes name = Bytes.ofText name := by
  rw [nameBytes, cutName_of_fits name.toList (by rwa [String.ofList_toList]), String.ofList_toList]

/-! ## What is written -/

/-- A behavior that a container has room for. -/
structure Storable (behavior : Behavior) : Prop where
  /-- Every instruction can be addressed. -/
  instructions : behavior.instructions.length ≤ maxInstructions
  /-- The length of the name fits into a byte. -/
  name : behavior.name.utf8ByteSize ≤ 255

instance (behavior : Behavior) : Decidable behavior.Storable :=
  decidable_of_iff
    (behavior.instructions.length ≤ maxInstructions ∧ behavior.name.utf8ByteSize ≤ 255)
    ⟨fun both => ⟨both.1, both.2⟩, fun storable => ⟨storable.instructions, storable.name⟩⟩

/-- The container of a behavior, field by field in the order in which it is read, with anything
after it. -/
theorem Storable.toBytes_append {behavior : Behavior} (storable : behavior.Storable)
    (rest : Bytes) :
    behavior.toBytes ++ rest =
      signature ++ (littleEndian 2 containerVersion.toNat ++ (littleEndian 2 behavior.id.toNat ++
        (behavior.argCount :: behavior.localCount ::
          (littleEndian 2 behavior.instructions.length ++
            (UInt8.ofNat behavior.name.utf8ByteSize :: (Bytes.ofText behavior.name ++
              (behavior.instructions.flatMap instructionBytes ++ rest))))))) := by
  have count : behavior.instructions.length % 0x10000 = behavior.instructions.length :=
    Nat.mod_eq_of_lt (Nat.lt_of_le_of_lt storable.instructions (by decide))
  simp only [toBytes, count, nameBytes_of_fits storable.name, Bytes.length_ofText,
    List.append_assoc, List.cons_append, List.nil_append]

/-! ## What is read -/

theorem readBytes_eq_ok_iff {count : Nat} {bytes head rest : Bytes} :
    readBytes count bytes = .ok (head, rest) ↔ head.length = count ∧ bytes = head ++ rest := by
  rw [readBytes, ← Bytes.takeExactly_eq_some_iff]
  cases takeExactly count bytes <;> simp

theorem readWord_eq_ok_iff {width number : Nat} {bytes rest : Bytes} :
    readWord width bytes = .ok (number, rest) ↔
      number < capacity width ∧ bytes = littleEndian width number ++ rest := by
  rw [readWord, ← Bytes.readLittle_eq_some_iff]
  cases readLittle width bytes <;> simp

theorem readWord_one_eq_ok_iff {number : Nat} {bytes rest : Bytes} :
    readWord 1 bytes = .ok (number, rest) ↔
      ∃ byte : UInt8, byte.toNat = number ∧ bytes = byte :: rest := by
  rw [readWord_eq_ok_iff]
  constructor
  · rintro ⟨small, rfl⟩
    have fits : number < 256 := small
    refine ⟨UInt8.ofNat number, UInt8.toNat_ofNat_of_lt' fits, ?_⟩
    simp [littleEndian, Nat.mod_eq_of_lt fits]
  · rintro ⟨byte, rfl, rfl⟩
    refine ⟨byte.toNat_lt, ?_⟩
    simp [littleEndian]

theorem readWord_two_eq_ok_iff {number : Nat} {bytes rest : Bytes} :
    readWord 2 bytes = .ok (number, rest) ↔
      ∃ word : UInt16, word.toNat = number ∧ bytes = littleEndian 2 word.toNat ++ rest := by
  rw [readWord_eq_ok_iff]
  constructor
  · rintro ⟨small, rfl⟩
    have same : (UInt16.ofNat number).toNat = number := UInt16.toNat_ofNat_of_lt' small
    exact ⟨UInt16.ofNat number, same, by rw [same]⟩
  · rintro ⟨word, rfl, rfl⟩
    exact ⟨word.toNat_lt, rfl⟩

theorem readInstruction_eq_ok_iff {bytes rest : Bytes} {instruction : Instruction} :
    readInstruction bytes = .ok (instruction, rest) ↔
      bytes = instructionBytes instruction ++ rest := by
  simp only [readInstruction, bind_eq_ok_iff, Prod.exists, readWord_one_eq_ok_iff,
    readWord_two_eq_ok_iff, readBytes_eq_ok_iff]
  constructor
  · rintro ⟨_, _, ⟨opcode, rfl, rfl⟩, _, _, ⟨trueTarget, rfl, rfl⟩, _, _, ⟨falseTarget, rfl, rfl⟩,
      operand, _, ⟨whole, rfl⟩, made⟩
    simp only [Except.ok.injEq, Prod.mk.injEq] at made
    obtain ⟨rfl, rfl⟩ := made
    have held : (operandBuffer operand).toList = operand := by
      rw [toList_operandBuffer (Nat.le_of_eq whole), whole]
      simp
    simp [instructionBytes, held]
  · rintro rfl
    refine ⟨_, _, ⟨instruction.opcode, rfl, List.append_assoc _ _ _⟩,
      _, _, ⟨instruction.trueTarget, rfl, rfl⟩, _, _, ⟨instruction.falseTarget, rfl, rfl⟩,
      instruction.operand.toList, rest, ⟨by simp, rfl⟩, ?_⟩
    simp [operandBuffer_toList]

theorem readInstructions_eq_ok_iff {count : Nat} {bytes rest : Bytes}
    {instructions : List Instruction} :
    readInstructions count bytes = .ok (instructions, rest) ↔
      instructions.length = count ∧ bytes = instructions.flatMap instructionBytes ++ rest := by
  induction count generalizing bytes rest instructions with
  | zero =>
    simp only [readInstructions, Except.ok.injEq, Prod.mk.injEq, List.length_eq_zero_iff]
    constructor
    · rintro ⟨rfl, rfl⟩
      exact ⟨rfl, rfl⟩
    · rintro ⟨rfl, rfl⟩
      exact ⟨rfl, rfl⟩
  | succ count inductionHypothesis =>
    simp only [readInstructions, bind_eq_ok_iff, Prod.exists, readInstruction_eq_ok_iff,
      inductionHypothesis]
    constructor
    · rintro ⟨first, _, rfl, others, _, ⟨rfl, rfl⟩, made⟩
      simp only [Except.ok.injEq, Prod.mk.injEq] at made
      obtain ⟨rfl, rfl⟩ := made
      exact ⟨rfl, by simp⟩
    · rintro ⟨more, rfl⟩
      cases instructions with
      | nil => simp at more
      | cons first others =>
        exact ⟨first, _, by simp, others, rest, ⟨Nat.succ.inj more, rfl⟩, rfl⟩

/-! ## Whole containers -/

/-- What is read is a behavior that a container has room for, from its bytes. The rest is left. -/
theorem ofBytes_eq_ok_iff {bytes rest : Bytes} {behavior : Behavior} :
    ofBytes bytes = .ok (behavior, rest) ↔
      behavior.Storable ∧ bytes = behavior.toBytes ++ rest := by
  simp only [ofBytes, bind_eq_ok_iff, guard_eq_ok_iff, Prod.exists, readBytes_eq_ok_iff,
    readWord_one_eq_ok_iff, readWord_two_eq_ok_iff, Decidable.not_not, ne_eq]
  constructor
  · rintro ⟨_, _, ⟨-, rfl⟩, rfl, _, _, ⟨version, rfl, rfl⟩, known, _, _, ⟨id, rfl, rfl⟩,
      _, _, ⟨argCount, rfl, rfl⟩, _, _, ⟨localCount, rfl, rfl⟩, _, _, ⟨count, rfl, rfl⟩,
      _, _, ⟨nameLength, rfl, rfl⟩, spelling, _, ⟨whole, rfl⟩, read⟩
    cases named : spelling.text? with
    | none =>
      simp [named, throw, throwThe, MonadExceptOf.throw, bind, Except.bind] at read
    | some name =>
      obtain rfl := Bytes.text?_eq_some_iff.mp named
      simp only [named, pure_bind, guard_eq_ok_iff, bind_eq_ok_iff, Prod.exists,
        readInstructions_eq_ok_iff, Nat.not_lt] at read
      obtain ⟨few, instructions, _, ⟨counted, rfl⟩, made⟩ := read
      obtain ⟨rfl, rfl⟩ := Prod.mk.inj (Except.ok.inj made)
      rw [Bytes.length_ofText] at whole
      have storable : Storable ⟨.ofNat id.toNat, name, .ofNat argCount.toNat,
          .ofNat localCount.toNat, instructions⟩ :=
        ⟨counted ▸ few, whole ▸ Nat.le_of_lt_succ nameLength.toNat_lt⟩
      refine ⟨storable, ?_⟩
      rw [storable.toBytes_append, known]
      simp only [UInt16.ofNat_toNat, UInt8.ofNat_toNat, counted, whole]
  · rintro ⟨storable, rfl⟩
    obtain ⟨count, counted⟩ : ∃ count : UInt16, count.toNat = behavior.instructions.length :=
      ⟨_, UInt16.toNat_ofNat_of_lt' (Nat.lt_of_le_of_lt storable.instructions (by decide))⟩
    have named : (UInt8.ofNat behavior.name.utf8ByteSize).toNat = behavior.name.utf8ByteSize :=
      UInt8.toNat_ofNat_of_lt' (Nat.lt_succ_of_le storable.name)
    rw [storable.toBytes_append, ← counted]
    refine ⟨_, _, ⟨rfl, rfl⟩, rfl, _, _, ⟨containerVersion, rfl, rfl⟩, rfl,
      _, _, ⟨behavior.id, rfl, rfl⟩, _, _, ⟨behavior.argCount, rfl, rfl⟩,
      _, _, ⟨behavior.localCount, rfl, rfl⟩, _, _, ⟨count, rfl, rfl⟩,
      _, _, ⟨_, named, rfl⟩, _, _, ⟨Bytes.length_ofText behavior.name, rfl⟩, ?_⟩
    simp only [Bytes.text?_ofText, pure_bind, guard_eq_ok_iff, bind_eq_ok_iff, Prod.exists,
      readInstructions_eq_ok_iff, Nat.not_lt, UInt16.ofNat_toNat, UInt8.ofNat_toNat, counted]
    exact ⟨storable.instructions, _, rest, ⟨rfl, rfl⟩, rfl⟩

/-- Nothing is read from less than a whole container: what would be read has a container that the
whole one begins with, and the reader would have stopped there. -/
theorem Storable.ofBytes_shorter {behavior : Behavior} (storable : behavior.Storable)
    {shorter : Bytes} (part : shorter <+: behavior.toBytes) (strict : shorter ≠ behavior.toBytes) :
    ∃ cause, ofBytes shorter = .error cause := by
  cases read : ofBytes shorter with
  | error cause => exact ⟨cause, rfl⟩
  | ok result =>
    obtain ⟨other, left⟩ := result
    obtain ⟨otherStorable, rfl⟩ := ofBytes_eq_ok_iff.mp read
    obtain ⟨missing, joined⟩ := part
    rw [List.append_assoc] at joined
    have whole : ofBytes behavior.toBytes = .ok (behavior, []) :=
      ofBytes_eq_ok_iff.mpr ⟨storable, (List.append_nil _).symm⟩
    have again : ofBytes behavior.toBytes = .ok (other, left ++ missing) :=
      ofBytes_eq_ok_iff.mpr ⟨otherStorable, joined.symm⟩
    obtain ⟨rfl, nothing⟩ := Prod.mk.inj (Except.ok.inj (whole.symm.trans again))
    rw [(List.append_eq_nil_iff.mp nothing.symm).1, List.append_nil] at strict
    exact absurd rfl strict

/-- **The reader accepts exactly what the writer writes.** A behavior is read when a container has
room for it and the bytes begin with its own, which are then what the reader consumes. Less than the
whole container is refused. -/
theorem ofBytes_exact (bytes : Bytes) (behavior : Behavior) :
    ((∃ rest, ofBytes bytes = .ok (behavior, rest)) ↔
      behavior.instructions.length ≤ maxInstructions ∧ behavior.name.utf8ByteSize ≤ 255 ∧
        ∃ rest, bytes = behavior.toBytes ++ rest) ∧
    (behavior.Storable → ofBytes behavior.toBytes = .ok (behavior, [])) ∧
    (∀ rest, ofBytes bytes = .ok (behavior, rest) → behavior.toBytes ++ rest = bytes) ∧
    (behavior.Storable → ∀ shorter : Bytes, shorter <+: behavior.toBytes →
      shorter ≠ behavior.toBytes → ∃ cause, ofBytes shorter = .error cause) := by
  refine ⟨?_, ?_, ?_, fun storable shorter => storable.ofBytes_shorter⟩
  · simp only [ofBytes_eq_ok_iff, exists_and_left, ← and_assoc]
    exact and_congr_left' ⟨fun storable => ⟨storable.1, storable.2⟩, fun both => ⟨both.1, both.2⟩⟩
  · exact fun storable => ofBytes_eq_ok_iff.mpr ⟨storable, (List.append_nil _).symm⟩
  · exact fun rest read => (ofBytes_eq_ok_iff.mp read).2.symm

/-- A behavior with an accent in its name, and its container without the last byte. -/
theorem ofBytes_exact_accented :
    let behavior : Behavior :=
      ⟨0x1234, "réveil", 1, 2, [⟨26, targetTrue, targetError, operandBuffer [7, 0]⟩]⟩
    let bytes : Bytes :=
      [0x42, 0x48, 0x41, 0x56, 1, 0, 0x34, 0x12, 1, 2, 1, 0,
        7, 0x72, 0xC3, 0xA9, 0x76, 0x65, 0x69, 0x6C,
        26, 0, 254, 253, 7, 0, 0, 0, 0, 0, 0, 0, 0, 0, 0, 0, 0, 0, 0, 0]
    behavior.Storable ∧ behavior.toBytes = bytes ∧ ofBytes bytes = .ok (behavior, []) ∧
      ∃ cause, ofBytes bytes.dropLast = .error cause := by
  intro behavior bytes
  have storable : behavior.Storable := by decide +kernel
  have written : behavior.toBytes = bytes := by decide +kernel
  obtain ⟨-, whole, -, shorter⟩ := ofBytes_exact bytes behavior
  refine ⟨storable, written, written ▸ whole storable, ?_⟩
  exact shorter storable bytes.dropLast (written ▸ List.dropLast_prefix _) (by decide +kernel)

end Behavior
end Lockstep
