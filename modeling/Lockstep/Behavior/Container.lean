import Lockstep.Behavior

/-!
# Behavior containers

A container holds one behavior as bytes: a signature, a version, the behavior's numbers, its name
after a length of one byte, and its instructions, twenty bytes each. All numbers are in
little-endian order.

The writer cuts a name that is longer than 255 bytes after its last whole character that fits,
and writes the number of instructions modulo 2 ^ 16. The reader refuses more instructions than
can be addressed and leaves the bytes after the last instruction unread.
-/

set_option autoImplicit false

namespace Lockstep.Behavior

open Bytes (littleEndian readLittle takeExactly)

/-- The four bytes that every container begins with. -/
def signature : Bytes := [0x42, 0x48, 0x41, 0x56]

/-- The version of the layout. -/
def containerVersion : UInt16 := 1

/-! ## Writing -/

/-- The longest part of a name, from its start, whose spelling has at most so many bytes. -/
def cutName : Nat → List Char → List Char
  | _, [] => []
  | room, character :: rest =>
    if character.utf8Size ≤ room then character :: cutName (room - character.utf8Size) rest else []

/-- The spelling of a name in a container. -/
def nameBytes (name : String) : Bytes := Bytes.ofText (String.ofList (cutName 255 name.toList))

/-- The bytes of an instruction. -/
def instructionBytes (instruction : Instruction) : Bytes :=
  littleEndian 2 instruction.opcode.toNat ++
    (instruction.trueTarget :: instruction.falseTarget :: instruction.operand.toList)

/-- The container of a behavior. -/
def toBytes (behavior : Behavior) : Bytes :=
  let name := nameBytes behavior.name
  signature ++ littleEndian 2 containerVersion.toNat ++ littleEndian 2 behavior.id.toNat ++
    [behavior.argCount, behavior.localCount] ++
    littleEndian 2 (behavior.instructions.length % 0x10000) ++
    (UInt8.ofNat name.length :: name) ++ behavior.instructions.flatMap instructionBytes

/-! ## Reading -/

/-- The number in the next bytes of a container. -/
def readWord (width : Nat) (bytes : Bytes) : Except BehaviorError (Nat × Bytes) :=
  match readLittle width bytes with
  | some result => .ok result
  | none => .error .truncated

/-- The next bytes of a container. -/
def readBytes (count : Nat) (bytes : Bytes) : Except BehaviorError (Bytes × Bytes) :=
  match takeExactly count bytes with
  | some result => .ok result
  | none => .error .truncated

/-- The next instruction of a container. -/
def readInstruction (bytes : Bytes) : Except BehaviorError (Instruction × Bytes) := do
  let (opcode, bytes) ← readWord 2 bytes
  let (trueTarget, bytes) ← readWord 1 bytes
  let (falseTarget, bytes) ← readWord 1 bytes
  let (operand, bytes) ← readBytes 16 bytes
  .ok (⟨UInt16.ofNat opcode, UInt8.ofNat trueTarget, UInt8.ofNat falseTarget,
    operandBuffer operand⟩, bytes)

/-- The next instructions of a container. -/
def readInstructions : Nat → Bytes → Except BehaviorError (List Instruction × Bytes)
  | 0, bytes => .ok ([], bytes)
  | count + 1, bytes => do
    let (instruction, bytes) ← readInstruction bytes
    let (rest, bytes) ← readInstructions count bytes
    .ok (instruction :: rest, bytes)

/-- The behavior at the start of a byte string, and the bytes after its container. -/
def ofBytes (bytes : Bytes) : Except BehaviorError (Behavior × Bytes) := do
  let (magic, bytes) ← readBytes 4 bytes
  if magic ≠ signature then throw .badMagic
  let (version, bytes) ← readWord 2 bytes
  if version ≠ containerVersion.toNat then throw (.unsupportedVersion (UInt16.ofNat version))
  let (id, bytes) ← readWord 2 bytes
  let (argCount, bytes) ← readWord 1 bytes
  let (localCount, bytes) ← readWord 1 bytes
  let (count, bytes) ← readWord 2 bytes
  let (nameLength, bytes) ← readWord 1 bytes
  let (spelling, bytes) ← readBytes nameLength bytes
  let name ← match spelling.text? with
    | some name => pure name
    | none => throw .badName
  if maxInstructions < count then throw (.tooManyInstructions (UInt16.ofNat id) count)
  let (instructions, bytes) ← readInstructions count bytes
  return (⟨UInt16.ofNat id, name, UInt8.ofNat argCount, UInt8.ofNat localCount, instructions⟩, bytes)

end Lockstep.Behavior
