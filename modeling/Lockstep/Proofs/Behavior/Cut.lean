import Lockstep.Proofs.Behavior.Container

/-!
# Behaviors that containers have no room for

The length of a name has one byte in a container, and the number of instructions has two. A name
that is longer is cut: what is stored is its longest part, from the start, that fits
(`LongestFitting`), and the behavior is read back with that name and is otherwise the same
(`Behavior.ofBytes_cut`).

Instructions are not cut, but the two bytes hold their number modulo 2 ^ 16 only. The reader refuses
a number that is too large to address. So from a behavior with more instructions than can be
addressed nothing is read, unless the number that stands for theirs is small by accident: then the
first few instructions are taken for all (`Behavior.ofBytes_oversized`).
-/

set_option autoImplicit false

namespace Lockstep

open Bytes (littleEndian)

/-! ## Spellings -/

theorem Bytes.ofText_append (first second : String) :
    Bytes.ofText (first ++ second) = Bytes.ofText first ++ Bytes.ofText second := by
  rw [Bytes.ofText, String.toByteArray_append, ByteArray.data_append, Array.toList_append]
  rfl

theorem Bytes.ofText_injective : Function.Injective Bytes.ofText := fun first second same =>
  Option.some.inj (by rw [← Bytes.text?_ofText first, same, Bytes.text?_ofText])

/-! ## Names that are cut -/

/-- The second text is as many whole characters from the start of the first one as can be spelled in
so many bytes. -/
structure LongestFitting (room : Nat) (name short : String) : Prop where
  start : ∃ rest, short ++ rest = name
  fits : short.utf8ByteSize ≤ room
  longest : ∀ other rest, other ++ rest = name → other.utf8ByteSize ≤ room →
    other.utf8ByteSize ≤ short.utf8ByteSize

/-- There is only one such part. -/
theorem LongestFitting.unique {room : Nat} {name short other : String}
    (first : LongestFitting room name short) (second : LongestFitting room name other) :
    short = other := by
  obtain ⟨rest, whole⟩ := first.start
  obtain ⟨otherRest, otherWhole⟩ := second.start
  have size : short.utf8ByteSize = other.utf8ByteSize :=
    Nat.le_antisymm (second.longest short rest whole first.fits)
      (first.longest other otherRest otherWhole second.fits)
  have same := congrArg Bytes.ofText (whole.trans otherWhole.symm)
  rw [Bytes.ofText_append, Bytes.ofText_append] at same
  have spelled : Bytes.ofText short = Bytes.ofText other :=
    List.append_inj_left same (by rw [Bytes.length_ofText, Bytes.length_ofText, size])
  exact Bytes.ofText_injective spelled

namespace Behavior

theorem cutName_append (room : Nat) (text : List Char) :
    ∃ rest, cutName room text ++ rest = text := by
  induction text generalizing room with
  | nil => exact ⟨[], rfl⟩
  | cons character text inductionHypothesis =>
    rw [cutName]
    split
    · obtain ⟨rest, whole⟩ := inductionHypothesis (room - character.utf8Size)
      exact ⟨rest, congrArg (character :: ·) whole⟩
    · exact ⟨character :: text, rfl⟩

theorem size_ofList_cons (character : Char) (text : List Char) :
    (String.ofList (character :: text)).utf8ByteSize =
      character.utf8Size + (String.ofList text).utf8ByteSize := by
  rw [String.ofList_cons, String.utf8ByteSize_append, String.utf8ByteSize_singleton]

theorem size_cutName_le (room : Nat) (text : List Char) :
    (String.ofList (cutName room text)).utf8ByteSize ≤ room := by
  induction text generalizing room with
  | nil => exact Nat.zero_le room
  | cons character text inductionHypothesis =>
    rw [cutName]
    split
    · have rest := inductionHypothesis (room - character.utf8Size)
      rw [size_ofList_cons]
      omega
    · exact Nat.zero_le room

/-- A part that fits is kept, and what is after it is cut to the room that is left. -/
theorem cutName_of_append {room : Nat} {part rest : List Char}
    (fits : (String.ofList part).utf8ByteSize ≤ room) :
    cutName room (part ++ rest) =
      part ++ cutName (room - (String.ofList part).utf8ByteSize) rest := by
  induction part generalizing room with
  | nil => rfl
  | cons character part inductionHypothesis =>
    rw [size_ofList_cons] at fits ⊢
    rw [List.cons_append, cutName, if_pos (by omega), inductionHypothesis (by omega),
      Nat.sub_add_eq, List.cons_append]

/-- What a container keeps of a name. -/
def shortName (name : String) : String := String.ofList (cutName 255 name.toList)

theorem longestFitting_shortName (name : String) : LongestFitting 255 name (shortName name) where
  start := by
    obtain ⟨rest, whole⟩ := cutName_append 255 name.toList
    refine ⟨String.ofList rest, ?_⟩
    rw [shortName, ← String.ofList_append, whole, String.ofList_toList]
  fits := size_cutName_le 255 name.toList
  longest other rest whole fits := by
    have room : (String.ofList other.toList).utf8ByteSize ≤ 255 := by rwa [String.ofList_toList]
    rw [shortName, ← whole, String.toList_append, cutName_of_append room, String.ofList_append,
      String.utf8ByteSize_append, String.ofList_toList]
    exact Nat.le_add_right _ _

theorem shortName_of_fits {name : String} (fits : name.utf8ByteSize ≤ 255) :
    shortName name = name := by
  rw [shortName, cutName_of_fits name.toList (by rwa [String.ofList_toList]), String.ofList_toList]

/-! ## What is stored -/

/-- The number of instructions that a container gives for a behavior. -/
def storedCount (behavior : Behavior) : Nat := behavior.instructions.length % 0x10000

/-- The behavior that a container shows in place of another one. -/
def stored (behavior : Behavior) : Behavior :=
  { behavior with
    name := shortName behavior.name
    instructions := behavior.instructions.take behavior.storedCount }

theorem storedCount_of_few {behavior : Behavior}
    (few : behavior.instructions.length < 0x10000) :
    behavior.storedCount = behavior.instructions.length := Nat.mod_eq_of_lt few

theorem length_stored (behavior : Behavior) :
    behavior.stored.instructions.length = behavior.storedCount :=
  List.length_take_of_le (Nat.mod_le _ _)

/-- A container is that of the behavior that it shows, and has the other instructions after it. -/
theorem toBytes_eq_stored (behavior : Behavior) :
    behavior.toBytes = behavior.stored.toBytes ++
      (behavior.instructions.drop behavior.storedCount).flatMap instructionBytes := by
  have name : nameBytes behavior.stored.name = nameBytes behavior.name :=
    nameBytes_of_fits (longestFitting_shortName behavior.name).fits
  have count : behavior.stored.instructions.length % 0x10000 =
      behavior.instructions.length % 0x10000 := by
    rw [length_stored, storedCount, Nat.mod_mod]
  have instructions : behavior.instructions.flatMap instructionBytes =
      behavior.stored.instructions.flatMap instructionBytes ++
        (behavior.instructions.drop behavior.storedCount).flatMap instructionBytes := by
    rw [← List.flatMap_append, stored, List.take_append_drop]
  simp only [toBytes, name, count, instructions, List.append_assoc]
  rfl

/-! ## What is read -/

/-- When the number of instructions is small enough, what the container shows is read. -/
theorem ofBytes_toBytes_of_le {behavior : Behavior} (few : behavior.storedCount ≤ maxInstructions)
    (rest : Bytes) :
    ofBytes (behavior.toBytes ++ rest) = .ok (behavior.stored,
      (behavior.instructions.drop behavior.storedCount).flatMap instructionBytes ++ rest) := by
  refine ofBytes_eq_ok_iff.mpr ⟨⟨?_, ?_⟩, ?_⟩
  · rw [length_stored]
    exact few
  · exact (longestFitting_shortName behavior.name).fits
  · rw [toBytes_eq_stored, List.append_assoc]

theorem readBytes_append (head rest : Bytes) :
    readBytes head.length (head ++ rest) = .ok (head, rest) :=
  readBytes_eq_ok_iff.mpr ⟨rfl, rfl⟩

theorem readWord_one_cons (byte : UInt8) (rest : Bytes) :
    readWord 1 (byte :: rest) = .ok (byte.toNat, rest) :=
  readWord_one_eq_ok_iff.mpr ⟨byte, rfl, rfl⟩

theorem readWord_two_append (word : UInt16) (rest : Bytes) :
    readWord 2 (littleEndian 2 word.toNat ++ rest) = .ok (word.toNat, rest) :=
  readWord_two_eq_ok_iff.mpr ⟨word, rfl, rfl⟩

/-- The length of a name that was cut fits into a byte. -/
theorem toNat_length_nameBytes (name : String) :
    (UInt8.ofNat (nameBytes name).length).toNat = (nameBytes name).length := by
  refine UInt8.toNat_ofNat_of_lt' (Nat.lt_succ_of_le ?_)
  rw [nameBytes, Bytes.length_ofText]
  exact (longestFitting_shortName name).fits

/-- When the number of instructions is too large, it is refused. -/
theorem ofBytes_toBytes_of_lt {behavior : Behavior} (many : maxInstructions < behavior.storedCount)
    (rest : Bytes) :
    ofBytes (behavior.toBytes ++ rest) =
      .error (.tooManyInstructions behavior.id behavior.storedCount) := by
  have magic (after : Bytes) : readBytes 4 (signature ++ after) = .ok (signature, after) :=
    readBytes_append signature after
  have name : (nameBytes behavior.name).text? = some (shortName behavior.name) :=
    Bytes.text?_ofText _
  obtain ⟨count, counted⟩ :
      ∃ count : UInt16, count.toNat = behavior.instructions.length % 0x10000 :=
    ⟨_, UInt16.toNat_ofNat_of_lt' (Nat.mod_lt _ (by decide))⟩
  rw [storedCount, ← counted] at many ⊢
  -- Everything before the instructions is read, and then the number of them is looked at.
  simp only [ofBytes, toBytes, ← counted, List.append_assoc, List.cons_append, List.nil_append,
    magic, readWord_one_cons, readWord_two_append, toNat_length_nameBytes, readBytes_append, name,
    bind, Except.bind, pure, Except.pure]
  simp [many, throw, throwThe, MonadExceptOf.throw]

/-! ## Names that are too long -/

/-- **A name that is too long is cut, and nothing else is.** The container of a behavior whose
instructions can all be addressed is read back as this behavior, except that of its name there is
the longest part, from its start, whose spelling has at most 255 bytes. -/
theorem ofBytes_cut {behavior : Behavior} (few : behavior.instructions.length ≤ maxInstructions)
    (rest : Bytes) :
    ∃ name : String, ofBytes (behavior.toBytes ++ rest) = .ok ({ behavior with name }, rest) ∧
      LongestFitting 255 behavior.name name ∧
      (behavior.name.utf8ByteSize ≤ 255 → name = behavior.name) := by
  have counted : behavior.storedCount = behavior.instructions.length :=
    storedCount_of_few (Nat.lt_of_le_of_lt few (by decide))
  refine ⟨shortName behavior.name, ?_, longestFitting_shortName behavior.name, shortName_of_fits⟩
  rw [ofBytes_toBytes_of_le (counted.symm ▸ few), stored, counted, List.take_length,
    List.drop_length]
  rfl

/-- After 254 bytes there is no room for both bytes of an accented letter. -/
theorem ofBytes_cut_accented :
    let start : String := String.ofList (List.replicate 254 'a')
    let behavior : Behavior :=
      ⟨7, start ++ "é-tail", 0, 2, [⟨26, targetTrue, targetError, operandBuffer [7, 0]⟩]⟩
    behavior.instructions.length ≤ maxInstructions ∧ 255 < behavior.name.utf8ByteSize ∧
      LongestFitting 255 behavior.name start ∧
      ofBytes behavior.toBytes = .ok ({ behavior with name := start }, []) := by
  intro start behavior
  have few : behavior.instructions.length ≤ maxInstructions := by decide
  have long : 255 < behavior.name.utf8ByteSize := by decide +kernel
  have cut : shortName behavior.name = start := by
    have fits : start.utf8ByteSize ≤ 255 := by decide +kernel
    have lost : cutName (255 - start.utf8ByteSize) "é-tail".toList = [] := by decide +kernel
    rw [shortName, String.toList_append, String.toList_ofList, cutName_of_append fits, lost,
      List.append_nil]
  obtain ⟨name, read, longest, _⟩ := ofBytes_cut few []
  obtain rfl : name = start := longest.unique (cut ▸ longestFitting_shortName behavior.name)
  exact ⟨few, long, longest, List.append_nil behavior.toBytes ▸ read⟩

/-! ## Instructions that are too many -/

/-- **What is read from a behavior with too many instructions**: an error, with their number modulo
2 ^ 16, if and only if this is too large as well, as it is for every number that fits into its two
bytes. Otherwise the first instructions are read, as many as the two bytes say, and nothing tells
that there were more. -/
theorem ofBytes_oversized {behavior : Behavior}
    (many : maxInstructions < behavior.instructions.length) (rest : Bytes) :
    let count := behavior.instructions.length % 0x10000
    ((∃ cause, ofBytes (behavior.toBytes ++ rest) = .error cause) ↔ maxInstructions < count) ∧
      (maxInstructions < count →
        ofBytes (behavior.toBytes ++ rest) = .error (.tooManyInstructions behavior.id count)) ∧
      (behavior.instructions.length < 0x10000 → maxInstructions < count) ∧
      (count ≤ maxInstructions → ∃ name left, LongestFitting 255 behavior.name name ∧
        ofBytes (behavior.toBytes ++ rest) =
          .ok ({ behavior with name, instructions := behavior.instructions.take count }, left)) := by
  intro count
  refine ⟨⟨?_, ?_⟩, fun large => ofBytes_toBytes_of_lt large rest, ?_, ?_⟩
  · rintro ⟨cause, failed⟩
    refine Nat.lt_of_not_le fun small => ?_
    rw [ofBytes_toBytes_of_le small] at failed
    cases failed
  · exact fun large => ⟨_, ofBytes_toBytes_of_lt large rest⟩
  · intro narrow
    exact Nat.lt_of_lt_of_eq many (storedCount_of_few narrow).symm
  · exact fun small => ⟨_, _, longestFitting_shortName behavior.name,
      ofBytes_toBytes_of_le small rest⟩

/-- One instruction more than can be addressed is told; 2 ^ 16 instructions more are not. -/
theorem ofBytes_oversized_repeated :
    let nap : Instruction := ⟨0, 0, targetFalse, operandBuffer [1]⟩
    let behavior (count : Nat) : Behavior := ⟨9, "nap", 0, 0, List.replicate count nap⟩
    maxInstructions < (behavior 254).instructions.length ∧
      ofBytes (behavior 254).toBytes = .error (.tooManyInstructions 9 254) ∧
      maxInstructions < (behavior 0x10001).instructions.length ∧
      ∃ name left, ofBytes (behavior 0x10001).toBytes =
        .ok ({ behavior 1 with name }, left) := by
  intro nap behavior
  have few : maxInstructions < (behavior 254).instructions.length := by
    rw [List.length_replicate]
    decide
  have many : maxInstructions < (behavior 0x10001).instructions.length := by
    rw [List.length_replicate]
    decide
  obtain ⟨_, refused, narrow, _⟩ := ofBytes_oversized few []
  obtain ⟨_, _, _, accepted⟩ := ofBytes_oversized many []
  simp only [behavior, List.length_replicate, List.append_nil, List.take_replicate] at *
  obtain ⟨name, left, _, read⟩ := accepted (by decide)
  exact ⟨few, refused (by decide), many, name, left, read⟩

/-- Of 2 ^ 16 instructions none is read, and that is no error. -/
theorem ofBytes_oversized_lost :
    let nap : Instruction := ⟨0, 0, targetFalse, operandBuffer [1]⟩
    let behavior : Behavior := ⟨9, "nap", 0, 0, List.replicate 0x10000 nap⟩
    maxInstructions < behavior.instructions.length ∧
      ∃ left, ofBytes behavior.toBytes = .ok ({ behavior with instructions := [] }, left) := by
  intro nap behavior
  have length : behavior.instructions.length = 0x10000 := List.length_replicate
  have fits : behavior.name.utf8ByteSize ≤ 255 := by decide +kernel
  have name : shortName behavior.name = behavior.name := shortName_of_fits fits
  clear_value behavior
  have count : behavior.storedCount = 0 := by
    rw [storedCount, length]
  have shown : behavior.stored = { behavior with instructions := [] } := by
    rw [stored, count, name, List.take_zero]
  have read := ofBytes_toBytes_of_le (count.symm ▸ Nat.zero_le maxInstructions) []
  rw [List.append_nil, shown] at read
  exact ⟨by rw [length]; decide, _, read⟩

end Behavior
end Lockstep
