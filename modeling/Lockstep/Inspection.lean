import Lockstep.Diagnosis

/-!
# Behaviors, messages and replicas as seen by tools

What a tool shows of a value, as data: a behavior with its operands decoded, the header of a
frame, what a message did to a replica, and how a replica stands. This is written only, and nothing
is read back from it.
-/

set_option autoImplicit false

namespace Lockstep

/-! ## Behaviors -/

/-- What is shown of a kind of primitive. -/
def PrimitiveKind.inspect (kind : PrimitiveKind) : Datum :=
  .record
    [("kind", .text kind.name), ("name", .text kind.name), ("opcode", Written.write kind.opcode),
      ("operand_len", .int kind.layoutLength), ("debug", .text (Enumeration.title kind))]

/-- What is shown of an instruction: its buffer, and the operand in it or why there is none. -/
def Instruction.inspect (instruction : Instruction) : Datum :=
  let decoded := match instruction.decodeOperand with
    | .ok operand => Written.write operand
    | .error cause => cause.diagnosis
  .record
    [("opcode", Written.write instruction.opcode), ("true", Written.write instruction.trueTarget),
      ("false", Written.write instruction.falseTarget),
      ("operand", .text (Bytes.hex instruction.operand.toList)), ("decoded", decoded)]

/-- What is shown of a behavior. -/
def Behavior.inspect (behavior : Behavior) : Datum :=
  .record
    [("id", Written.write behavior.id), ("name", .text behavior.name),
      ("arg_count", Written.write behavior.argCount),
      ("local_count", Written.write behavior.localCount),
      ("instructions", .list (behavior.instructions.map Instruction.inspect))]

/-! ## Messages -/

/-- What is shown of a header. -/
def MessageHeader.inspect (header : MessageHeader) : Datum :=
  .record
    [("kind", Written.write (Enumeration.code header.kind)),
      ("name", .text (Enumeration.title header.kind)),
      ("direction", .text header.kind.direction.text), ("length", Written.write header.length)]

/-- What is shown of a message. -/
def inspectMessage (kind : MessageKind) (payload : Datum) : Datum :=
  .record [("kind", .text (Enumeration.name kind)), ("payload", payload)]

/-! ## Replicas -/

/-- What is shown of what a message did. -/
def ReplicaEvent.inspect : ReplicaEvent → Datum
  | .welcomed client tick =>
    .variant "event" "welcomed" [("client", Written.write client), ("tick", Written.write tick)]
  | .tickApplied tick inSync =>
    .variant "event" "tick_applied" [("tick", Written.write tick), ("in_sync", .bool inSync)]
  | .dropped reason => .variant "event" "dropped" [("reason", reason.diagnosis)]
  | .notReady tick => .variant "event" "not_ready" [("tick", Written.write tick)]
  | .avatar entity => .variant "event" "avatar" [("entity", Written.write entity)]
  | .rejected clientSeq reason =>
    .variant "event" "rejected" [("client_seq", Written.write clientSeq), ("reason", .text reason)]
  | .notice content => .variant "event" "notice" [("notice", Written.write content)]

/-- What is shown of a replica. Before a welcome it has no client, no tick and no budget. -/
def Replica.inspect (replica : Replica) : List (String × Datum) :=
  let tick := replica.machine.map fun machine => machine.state.tick
  let budget := replica.machine.map fun machine => machine.settings.instructionBudget
  [("client", Written.write replica.client), ("tick", Written.write tick),
    ("budget", Written.write budget), ("applied", Written.write replica.applied),
    ("desyncs", Written.write replica.desyncs), ("avatars", Written.write replica.avatars),
    ("notices", Written.write replica.notices),
    ("rejections", .list (replica.rejections.map fun (seq, reason) =>
      .list [Written.write seq, .text reason]))]

/-- The hash of a replica's state, if it has one. -/
def Replica.hash? (replica : Replica) : Option Bytes :=
  replica.machine.map fun machine => machine.state.hash

end Lockstep
