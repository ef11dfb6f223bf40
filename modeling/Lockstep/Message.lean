import Lockstep.Command
import Lockstep.Packed

/-!
# Messages

The host tells its clients what each tick did (`BroadcastTick`), how avatars look (`AvatarData`)
and what concerns one client alone (`Direct`). Clients send commands. A message has a kind, which
fixes who may send it, and a payload, which is written in MessagePack.
-/

set_option autoImplicit false

namespace Lockstep

/-! ## Payloads -/

/-- Whether threads failed in a tick. -/
inductive TickStatus where
  | ok
  | threadErrors (count : UInt32)
  deriving DecidableEq, Inhabited

/-- Whether no thread failed. -/
def TickStatus.isOk : TickStatus → Bool
  | .ok => true
  | .threadErrors _ => false

/-- What a tick was made of, and what it did. -/
structure BroadcastTick where
  tick : UInt64
  seed : UInt64
  commands : List SequencedCommand
  deltas : List EntityDelta
  status : TickStatus
  stateHash : Bytes
  deriving DecidableEq, Inhabited

/-- A message that a behavior sends to the client of an entity. -/
structure Notice where
  entity : EntityId
  message : UInt16
  deriving DecidableEq, Inhabited

/-- What a client gets to start a replica from. -/
structure Welcome where
  client : ClientId
  protocol : UInt16
  tick : UInt64
  instructionBudget : UInt32
  snapshot : Bytes
  deriving DecidableEq, Inhabited

/-- A message to one client. -/
inductive Direct where
  | welcome (welcome : Welcome)
  | commandRejected (clientSeq : UInt32) (reason : String)
  | notice (notice : Notice)
  deriving DecidableEq, Inhabited

/-- How an avatar looks after a tick. -/
structure AvatarData where
  tick : UInt64
  avatar : AvatarSnapshot
  deriving DecidableEq, Inhabited

/-! ## Messages -/

/-- The kinds of message. -/
inductive MessageKind where
  | broadcastTick | direct | avatarData | command
  deriving DecidableEq, Inhabited

instance : Enumeration MessageKind where
  all := [.broadcastTick, .direct, .avatarData, .command]
  code
    | .broadcastTick => 0
    | .direct => 1
    | .avatarData => 2
    | .command => 128
  name
    | .broadcastTick => "broadcast_tick"
    | .direct => "direct"
    | .avatarData => "avatar_data"
    | .command => "command"
  title
    | .broadcastTick => "BroadcastTick"
    | .direct => "Direct"
    | .avatarData => "AvatarData"
    | .command => "Command"

/-- A message of the host. -/
inductive ServerMessage where
  | broadcastTick (tick : BroadcastTick)
  | direct (direct : Direct)
  | avatarData (data : AvatarData)
  deriving DecidableEq, Inhabited

/-- A message of a client. -/
inductive ClientMessage where
  | command (command : Command)
  deriving DecidableEq, Inhabited

/-- The kind of a message of the host. -/
def ServerMessage.kind : ServerMessage → MessageKind
  | .broadcastTick _ => .broadcastTick
  | .direct _ => .direct
  | .avatarData _ => .avatarData

/-- The kind of a message of a client. -/
def ClientMessage.kind : ClientMessage → MessageKind
  | .command _ => .command

/-! ## As data -/

instance : Written TickStatus where
  write
    | .ok => .variant "status" "ok" []
    | .threadErrors count => .variant "status" "thread_errors" [("count", Written.write count)]
  read encoding datum := do
    let (label, content) ← datum.variant? encoding "status" ["ok", "thread_errors"]
    match label with
    | "ok" => if content.isUnit then some .ok else none
    | _ =>
      let fields ← content.fields? .buffered ["count"]
      let count ← fields.required "count"
      some (.threadErrors count)

instance : Written BroadcastTick where
  write tick := .record
    [("tick", Written.write tick.tick), ("seed", Written.write tick.seed),
      ("commands", Written.write tick.commands), ("deltas", Written.write tick.deltas),
      ("status", Written.write tick.status), ("state_hash", .bytes tick.stateHash)]
  read encoding datum := do
    let fields ← datum.fields? encoding ["tick", "seed", "commands", "deltas", "status", "state_hash"]
    let tick ← fields.required "tick"
    let seed ← fields.required "seed"
    let commands ← fields.required "commands"
    let deltas ← fields.required "deltas"
    let status ← fields.required "status"
    let stateHash ← (fields.find? "state_hash").bind Datum.blob?
    some ⟨tick, seed, commands, deltas, status, stateHash⟩

instance : Written Notice where
  write notice := .record
    [("entity", Written.write notice.entity), ("message", Written.write notice.message)]
  read encoding datum := do
    let fields ← datum.fields? encoding ["entity", "message"]
    let entity ← fields.required "entity"
    let message ← fields.required "message"
    some ⟨entity, message⟩

/-- The fields of a welcome. -/
def Welcome.fields (welcome : Welcome) : List (String × Datum) :=
  [("client", Written.write welcome.client), ("protocol", Written.write welcome.protocol),
    ("tick", Written.write welcome.tick),
    ("instruction_budget", Written.write welcome.instructionBudget),
    ("snapshot", .bytes welcome.snapshot)]

/-- The welcome found in a datum. -/
def Welcome.ofFields? (datum : Datum) : Option Welcome := do
  let fields ← datum.fields? .buffered
    ["client", "protocol", "tick", "instruction_budget", "snapshot"]
  let client ← fields.required "client"
  let protocol ← fields.required "protocol"
  let tick ← fields.required "tick"
  let instructionBudget ← fields.required "instruction_budget"
  let snapshot ← (fields.find? "snapshot").bind Datum.blob?
  some ⟨client, protocol, tick, instructionBudget, snapshot⟩

instance : Written Direct where
  write
    | .welcome welcome => .variant "notice" "welcome" welcome.fields
    | .commandRejected clientSeq reason =>
      .variant "notice" "command_rejected"
        [("client_seq", Written.write clientSeq), ("reason", Written.write reason)]
    | .notice notice =>
      .variant "notice" "notice"
        [("entity", Written.write notice.entity), ("message", Written.write notice.message)]
  read encoding datum := do
    let (label, content) ← datum.variant? encoding "notice" ["welcome", "command_rejected", "notice"]
    match label with
    | "welcome" => (Welcome.ofFields? content).map .welcome
    | "command_rejected" =>
      let fields ← content.fields? .buffered ["client_seq", "reason"]
      let clientSeq ← fields.required "client_seq"
      let reason ← fields.required "reason"
      some (.commandRejected clientSeq reason)
    | _ => (Written.read .buffered content).map .notice

instance : Written AvatarData where
  write data := .record
    [("tick", Written.write data.tick), ("avatar", Written.write data.avatar)]
  read encoding datum := do
    let fields ← datum.fields? encoding ["tick", "avatar"]
    let tick ← fields.required "tick"
    let avatar ← fields.required "avatar"
    some ⟨tick, avatar⟩

/-! ## Payloads as data and as bytes -/

/-- The payload of a message of the host. -/
def ServerMessage.payload : ServerMessage → Datum
  | .broadcastTick tick => Written.write tick
  | .direct content => Written.write content
  | .avatarData data => Written.write data

/-- The payload of a message of a client. -/
def ClientMessage.payload : ClientMessage → Datum
  | .command request => Written.write request

/-- The message of the host with a kind and a payload. -/
def ServerMessage.ofPayload? (encoding : Encoding) (kind : MessageKind) (payload : Datum) :
    Option ServerMessage :=
  match kind with
  | .broadcastTick => (Written.read encoding payload).map .broadcastTick
  | .direct => (Written.read encoding payload).map .direct
  | .avatarData => (Written.read encoding payload).map .avatarData
  | .command => none

/-- The message of a client with a kind and a payload. -/
def ClientMessage.ofPayload? (encoding : Encoding) (kind : MessageKind) (payload : Datum) :
    Option ClientMessage :=
  match kind with
  | .command => (Written.read encoding payload).map .command
  | _ => none

/-- The value that a byte string begins with, whatever follows it. -/
def ofPackedBytes? {α : Type} [Written α] (bytes : Bytes) : Option α :=
  (Packed.read bytes).bind fun (datum, _) => Written.read .packed datum

end Lockstep
