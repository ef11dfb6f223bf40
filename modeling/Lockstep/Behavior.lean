import Lockstep.Operand.Data
import Lockstep.Operand.Layout

/-!
# Behaviors

A behavior is a numbered and named list of instructions. Each instruction carries an operand and
says where to go on when it turns out true and when it turns out false: at another instruction
of the list, or back to the caller with an error, true or false.
-/

set_option autoImplicit false

namespace Lockstep

/-- The branch target that returns with an error. -/
def targetError : UInt8 := 253

/-- The branch target that returns true. -/
def targetTrue : UInt8 := 254

/-- The branch target that returns false. -/
def targetFalse : UInt8 := 255

/-- How many instructions a behavior can address. -/
def maxInstructions : Nat := 253

/-- An encoded instruction. -/
structure Instruction where
  opcode : UInt16
  trueTarget : UInt8
  falseTarget : UInt8
  /-- The operand, and whatever fills it up. -/
  operand : Vector UInt8 16
  deriving DecidableEq, Inhabited

/-- A buffer of sixteen bytes that begins with the given ones and is filled up with zeros. -/
def operandBuffer (bytes : Bytes) : Vector UInt8 16 :=
  Vector.ofFn fun place : Fin 16 => bytes[place.val]?.getD 0

namespace Instruction

/-- The instruction with an operand and its two targets. -/
def ofOperand (operand : Operand) (trueTarget falseTarget : UInt8) : Instruction :=
  ⟨operand.opcode, trueTarget, falseTarget, operandBuffer operand.encode⟩

/-- The operand of an instruction. -/
def decodeOperand (instruction : Instruction) : Except OperandError Operand :=
  Operand.decode instruction.opcode instruction.operand.toList

/-- Where an instruction goes on. -/
def target (instruction : Instruction) : Bool → UInt8
  | true => instruction.trueTarget
  | false => instruction.falseTarget

end Instruction

/-- A behavior. -/
structure Behavior where
  id : UInt16
  name : String
  argCount : UInt8
  localCount : UInt8
  instructions : List Instruction
  deriving DecidableEq, Inhabited

/-! ## Errors -/

/-- Why a behavior cannot be read, or is not one that can run. -/
inductive BehaviorError where
  | badMagic
  | unsupportedVersion (version : UInt16)
  | truncated
  | badName
  | tooManyInstructions (id : UInt16) (count : Nat)
  | targetOutOfRange (id : UInt16) (index : Nat) (target : UInt8)
  | invalidCallTarget (id : UInt16) (index : Nat) (behavior : UInt16)
  | operand (id : UInt16) (index : Nat) (cause : OperandError)
  deriving DecidableEq, Inhabited

/-- The place of an instruction in error texts. -/
def instructionPlace (id : UInt16) (index : Nat) : String :=
  "behavior " ++ toString id.toNat ++ " instruction " ++ toString index

/-- The text of an error. -/
def BehaviorError.message : BehaviorError → String
  | .badMagic => "behavior container missing BHAV signature"
  | .unsupportedVersion version =>
    "behavior container version " ++ toString version.toNat ++ " is unsupported"
  | .truncated => "behavior container truncated: failed to fill whole buffer"
  | .badName => "behavior name is not UTF-8"
  | .tooManyInstructions id count =>
    "behavior " ++ toString id.toNat ++ " has " ++ toString count ++ " instructions; at most " ++
      toString maxInstructions ++ " are addressable"
  | .targetOutOfRange id index target =>
    instructionPlace id index ++ " branches to " ++ toString target.toNat ++
      ", past the end of the program"
  | .invalidCallTarget id index behavior =>
    instructionPlace id index ++ " calls behavior " ++ toString behavior.toNat ++
      ", which is below the call range"
  | .operand id index cause =>
    instructionPlace id index ++ " operand is invalid: " ++ cause.message

/-! ## Validity -/

namespace Behavior

/-- Whether a target leads somewhere in a list of so many instructions. -/
def reaches (count : Nat) (target : UInt8) : Bool :=
  targetError ≤ target || target.toNat < count

/-- The first target of the instructions from an index on that leads nowhere. -/
def firstStray? (count : Nat) : Nat → List Instruction → Option (Nat × UInt8)
  | _, [] => none
  | index, instruction :: rest =>
    if !reaches count instruction.trueTarget then some (index, instruction.trueTarget)
    else if !reaches count instruction.falseTarget then some (index, instruction.falseTarget)
    else firstStray? count (index + 1) rest

/-- A behavior is valid when all its instructions can be addressed and every target leads
somewhere. Operands are not looked at. -/
def validate (behavior : Behavior) : Except BehaviorError Unit :=
  let count := behavior.instructions.length
  if maxInstructions < count then .error (.tooManyInstructions behavior.id count)
  else
    match firstStray? count 0 behavior.instructions with
    | some (index, target) => .error (.targetOutOfRange behavior.id index target)
    | none => .ok ()

end Behavior

/-! ## As data -/

instance : Written Instruction where
  write instruction := .record
    [("opcode", Written.write instruction.opcode),
      ("true_target", Written.write instruction.trueTarget),
      ("false_target", Written.write instruction.falseTarget),
      ("operand", Written.write instruction.operand)]
  read encoding datum := do
    let fields ← datum.fields? encoding ["opcode", "true_target", "false_target", "operand"]
    let opcode ← fields.required "opcode"
    let trueTarget ← fields.required "true_target"
    let falseTarget ← fields.required "false_target"
    let operand ← fields.required "operand"
    some ⟨opcode, trueTarget, falseTarget, operand⟩

instance : Written Behavior where
  write behavior := .record
    [("id", Written.write behavior.id), ("name", Written.write behavior.name),
      ("arg_count", Written.write behavior.argCount),
      ("local_count", Written.write behavior.localCount),
      ("instructions", Written.write behavior.instructions)]
  read encoding datum := do
    let fields ← datum.fields? encoding ["id", "name", "arg_count", "local_count", "instructions"]
    let id ← fields.required "id"
    let name ← fields.required "name"
    let argCount ← fields.required "arg_count"
    let localCount ← fields.required "local_count"
    let instructions ← fields.required "instructions"
    some ⟨id, name, argCount, localCount, instructions⟩

end Lockstep
