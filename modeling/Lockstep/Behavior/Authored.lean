import Lockstep.Behavior

/-!
# Authored behaviors

In manifests a behavior is written by hand: operands by name, and targets as numbers or as words.
The true target may be left out and is then the next instruction, and the false target may be
left out and then returns false. From the last instruction, `next` returns true.

`AuthoredBehavior.compile` turns it into a behavior. It refuses a call of a behavior whose number
is not in the call range, more instructions than can be addressed, and targets that lead
nowhere.
-/

set_option autoImplicit false

namespace Lockstep

/-- Where an authored instruction goes on. -/
inductive AuthoredTarget where
  | index (target : UInt8)
  | next
  | returnTrue
  | returnFalse
  | error
  deriving DecidableEq, Inhabited

/-- An instruction written by hand. -/
structure AuthoredInstruction where
  op : Operand
  trueTarget : Option AuthoredTarget
  falseTarget : Option AuthoredTarget
  deriving DecidableEq, Inhabited

/-- A behavior written by hand. -/
structure AuthoredBehavior where
  id : UInt16
  name : String
  args : UInt8
  locals : UInt8
  instructions : List AuthoredInstruction
  deriving DecidableEq, Inhabited

/-! ## Compilation -/

/-- The target byte that an authored target of the instruction at an index stands for. -/
def AuthoredTarget.resolve (index count : Nat) : AuthoredTarget → UInt8
  | .index target => target
  | .next => if index + 1 < count then UInt8.ofNat (index + 1) else targetTrue
  | .returnTrue => targetTrue
  | .returnFalse => targetFalse
  | .error => targetError

namespace AuthoredBehavior

/-- The instruction that an authored one at an index stands for. Its operand has to be one that
can be decoded again. -/
def compileInstruction (id : UInt16) (index count : Nat) (authored : AuthoredInstruction) :
    Except BehaviorError Instruction :=
  let instruction := Instruction.ofOperand authored.op
    ((authored.trueTarget.getD .next).resolve index count)
    ((authored.falseTarget.getD .returnFalse).resolve index count)
  let callee := match authored.op with
    | .call request => request.behavior
    | .primitive _ => callBase
  if callee < callBase then .error (.invalidCallTarget id index callee)
  else
    match instruction.decodeOperand with
    | .ok _ => .ok instruction
    | .error cause => .error (.operand id index cause)

/-- The instructions that authored ones from an index on stand for. -/
def compileInstructions (id : UInt16) (count : Nat) :
    Nat → List AuthoredInstruction → Except BehaviorError (List Instruction)
  | _, [] => .ok []
  | index, authored :: rest => do
    let instruction ← compileInstruction id index count authored
    let instructions ← compileInstructions id count (index + 1) rest
    .ok (instruction :: instructions)

/-- The behavior that an authored one stands for. -/
def compile (authored : AuthoredBehavior) : Except BehaviorError Behavior := do
  let instructions ← compileInstructions authored.id authored.instructions.length 0
    authored.instructions
  let behavior : Behavior :=
    ⟨authored.id, authored.name, authored.args, authored.locals, instructions⟩
  behavior.validate
  .ok behavior

end AuthoredBehavior

/-! ## As data -/

instance : Enumeration AuthoredTarget where
  all := [.next, .returnTrue, .returnFalse, .error]
  code
    | .index target => target
    | .next => 0
    | .returnTrue => 1
    | .returnFalse => 2
    | .error => 3
  name
    | .index _ => ""
    | .next => "next"
    | .returnTrue => "return_true"
    | .returnFalse => "return_false"
    | .error => "error"
  title
    | .index _ => "Index"
    | .next => "Next"
    | .returnTrue => "ReturnTrue"
    | .returnFalse => "ReturnFalse"
    | .error => "Error"

instance : Written AuthoredTarget where
  write
    | .index target => Written.write target
    | keyword => Enumeration.write keyword
  read encoding datum :=
    match (Written.read encoding datum : Option UInt8) with
    | some target => some (.index target)
    | none => Enumeration.read encoding datum

instance : Written AuthoredInstruction where
  write instruction := .record
    [("op", Written.write instruction.op), ("true", Written.write instruction.trueTarget),
      ("false", Written.write instruction.falseTarget)]
  read encoding datum := do
    let fields ← datum.fields? encoding ["op", "true", "false"]
    let op ← fields.required "op"
    let trueTarget ← fields.defaulted "true" none
    let falseTarget ← fields.defaulted "false" none
    some ⟨op, trueTarget, falseTarget⟩

instance : Written AuthoredBehavior where
  write behavior := .record
    [("id", Written.write behavior.id), ("name", Written.write behavior.name),
      ("args", Written.write behavior.args), ("locals", Written.write behavior.locals),
      ("instructions", Written.write behavior.instructions)]
  read encoding datum := do
    let fields ← datum.fields? encoding ["id", "name", "args", "locals", "instructions"]
    let id ← fields.required "id"
    let name ← fields.required "name"
    let args ← fields.defaulted "args" 0
    let locals ← fields.defaulted "locals" 0
    let instructions ← fields.required "instructions"
    some ⟨id, name, args, locals, instructions⟩

end Lockstep
