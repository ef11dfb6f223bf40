import Lockstep.Machine
import Lockstep.Text.Blank

/-!
# The relay of commands

The relay turns what clients ask for, in the order in which it arrives, into one sequence of
commands. A command that is accepted gets the next sequence number and is pinned to a tick that is
some ticks ahead; the ticks then take the commands that are due. A command that is rejected leaves
no mark.

A client counts as joined from the moment its join is accepted until its leave is, although both
take effect later. To know this the relay remembers which clients are `joining` and which are
`leaving`.
-/

set_option autoImplicit false

namespace Lockstep

/-- How many bytes a client may say at once. -/
def maxChatBytes : Nat := 256

/-- How far from the middle of the world an avatar may be put, along each axis. -/
def worldBound : Nat := 4096

/-- How many ticks ahead commands are pinned when nothing else is said. -/
def defaultCommandLead : UInt64 := 1

/-- Why a command is rejected. -/
inductive Rejection where
  | notJoined
  | alreadyJoined
  | emptyName
  | unknownTarget (id : EntityId)
  | notPermitted (id : EntityId)
  | unknownBehavior (behavior : UInt16)
  | chatTooLong (length : Nat)
  | outOfBounds (position : Position)
  /-- The client's count of its commands did not grow. -/
  | sequenceRegression (last got : UInt32)
  deriving DecidableEq, Inhabited

/-- The text of a rejection. -/
def Rejection.message : Rejection → String
  | .notJoined => "client has not joined"
  | .alreadyJoined => "client has already joined"
  | .emptyName => "avatar name must not be empty"
  | .unknownTarget id => "entity " ++ id.text ++ " does not exist"
  | .notPermitted id => "entity " ++ id.text ++ " belongs to another client"
  | .unknownBehavior behavior => "behavior " ++ codeNumeral behavior ++ " is not loaded"
  | .chatTooLong length =>
    "chat message of " ++ toString length ++ " bytes exceeds " ++ toString maxChatBytes
  | .outOfBounds position =>
    "position (" ++ toString position.x.toInt ++ ", " ++ toString position.y.toInt ++
      ") is outside the world bounds"
  | .sequenceRegression last got =>
    "client sequence " ++ toString got.toNat ++ " does not advance past " ++ toString last.toNat

/-- Commands that have been accepted and not been taken, and what the relay knows of clients. -/
structure Relay where
  /-- The sequence number that was given out last. -/
  nextSeq : UInt64
  /-- How many ticks ahead commands are pinned. -/
  lead : UInt64
  /-- The commands of each tick in the order in which they were accepted. -/
  pending : Table UInt64 (List SequencedCommand)
  /-- The last count of each client that has sent a command. -/
  lastClientSeq : Table ClientId UInt32
  joining : KeySet ClientId
  leaving : KeySet ClientId
  deriving DecidableEq

namespace Relay

/-- A relay without commands. It pins them at least one tick ahead. -/
def new (lead : UInt64) : Relay where
  nextSeq := 0
  lead := max lead 1
  pending := Table.empty
  lastClientSeq := Table.empty
  joining := Table.empty
  leaving := Table.empty

instance : Inhabited Relay := ⟨new defaultCommandLead⟩

/-- How many commands are waiting for their tick. -/
def pendingCount (relay : Relay) : Nat := relay.pending.values.flatten.length

/-- Whether a client has joined, or is about to, and is not about to leave. -/
def isJoined (relay : Relay) (client : ClientId) (state : State) : Bool :=
  !relay.leaving.contains client &&
    (relay.joining.contains client || (state.avatarOf? client).isSome)

/-! ## Accepting commands -/

/-- Whether the count of a client's command is greater than that of the one before. -/
def checkCount (relay : Relay) (client : ClientId) (count : UInt32) : Except Rejection Unit :=
  match relay.lastClientSeq.get? client with
  | none => .ok ()
  | some last => if count ≤ last then .error (.sequenceRegression last count) else .ok ()

/-- Whether a client may ask for an action now. -/
def checkAction (relay : Relay) (client : ClientId) (machine : Machine) (action : CommandAction) :
    Except Rejection Unit :=
  let state := machine.state
  let joined := relay.isJoined client state
  match action with
  | .join name =>
    if joined then .error .alreadyJoined
    else if isBlankText name then .error .emptyName
    else .ok ()
  | .leave => if joined then .ok () else .error .notJoined
  | .interact target behavior _ =>
    if !joined then .error .notJoined
    else if !state.entities.contains target then .error (.unknownTarget target)
    else if !state.mayInteract client target then .error (.notPermitted target)
    else if !machine.library.contains behavior then .error (.unknownBehavior behavior)
    else .ok ()
  | .move position =>
    if !joined then .error .notJoined
    else if worldBound < position.x.toInt.natAbs ∨ worldBound < position.y.toInt.natAbs then
      .error (.outOfBounds position)
    else .ok ()
  | .chat text =>
    if !joined then .error .notJoined
    else if maxChatBytes < text.utf8ByteSize then .error (.chatTooLong text.utf8ByteSize)
    else .ok ()

/-- Remember that a client is about to join or leave. -/
def mark (relay : Relay) (client : ClientId) : CommandAction → Relay
  | .join _ =>
    { relay with
      joining := relay.joining.insert client ()
      leaving := relay.leaving.erase client }
  | .leave =>
    { relay with
      joining := relay.joining.erase client
      leaving := relay.leaving.insert client () }
  | _ => relay

/-- Give an action the next sequence number and pin it to a tick. -/
def schedule (relay : Relay) (client : ClientId) (action : CommandAction) (machine : Machine) :
    SequencedCommand × Relay :=
  let seq := relay.nextSeq + 1
  let tick := machine.state.tick + relay.lead
  let command : SequencedCommand := { seq, tick, client, action }
  let batch := (relay.pending.get? tick).getD []
  let relay := relay.mark client action
  (command,
    { relay with nextSeq := seq, pending := relay.pending.insert tick (batch ++ [command]) })

/-- What is noted of a command that was accepted. -/
def acceptanceNote (command : SequencedCommand) : TraceEntry :=
  .note .debug ("seq " ++ toString command.seq.toNat ++ " " ++ command.action.label ++ " from " ++
    command.client.text ++ " pinned to tick " ++ toString command.tick.toNat)

/-- Accept or reject the command of a client. -/
def submit (relay : Relay) (client : ClientId) (command : Command) (machine : Machine) :
    Except Rejection (SequencedCommand × Relay) := do
  relay.checkCount client command.clientSeq
  relay.checkAction client machine command.action
  let counted :=
    { relay with lastClientSeq := relay.lastClientSeq.insert client command.clientSeq }
  .ok (counted.schedule client command.action machine)

/-- Forget a client that has gone, and make its avatar leave if it has or is about to get one. -/
def disconnect (relay : Relay) (client : ClientId) (machine : Machine) :
    Option SequencedCommand × Relay :=
  let forgotten := { relay with lastClientSeq := relay.lastClientSeq.erase client }
  if forgotten.isJoined client machine.state then
    let (command, relay) := forgotten.schedule client .leave machine
    (some command, relay)
  else (none, { forgotten with joining := forgotten.joining.erase client })

/-! ## Taking commands -/

/-- Forget that a client was about to join or leave, once its command is taken. -/
def unmark (relay : Relay) (command : SequencedCommand) : Relay :=
  match command.action with
  | .join _ => { relay with joining := relay.joining.erase command.client }
  | .leave => { relay with leaving := relay.leaving.erase command.client }
  | _ => relay

/-- What is noted of commands that are taken for a tick later than theirs. -/
def latenessNotes (due : List (UInt64 × List SequencedCommand)) (tick : UInt64) :
    List TraceEntry :=
  due.filterMap fun (pinned, batch) =>
    if pinned < tick then
      some (.note .warn (toString batch.length ++ " command(s) pinned to tick " ++
        toString pinned.toNat ++ " applied late at " ++ toString tick.toNat))
    else none

/-- Take the commands that are pinned to a tick or to an earlier one, which are those before the
tick that follows it, in the order of their sequence numbers. -/
def takeForTick (relay : Relay) (tick : UInt64) :
    List SequencedCommand × List TraceEntry × Relay :=
  let following := tick + 1
  let due := relay.pending.filter fun pinned _ => pinned < following
  let taken := due.values.flatten
  let commands := SequencedCommand.sort (taken.map fun command => { command with tick })
  let relay := taken.foldl unmark relay
  (commands, latenessNotes due.entries tick,
    { relay with pending := relay.pending.filter fun pinned _ => following ≤ pinned })

end Relay
end Lockstep
