import Lockstep.Message.Router
import Lockstep.Message.Frame
import Lockstep.Tick

/-!
# Replicas

A replica follows a simulation that runs somewhere else. It starts from the snapshot in a welcome
and runs every broadcast tick itself, with the same commands and the same seed, and compares the
hash of its state with the one in the broadcast. What it is told of avatars and what is said to
its client are kept beside the state and never go into it.
-/

set_option autoImplicit false

namespace Lockstep

/-- Why a message cannot be handled. -/
inductive ReplicaError where
  | protocolMismatch (protocol : UInt16)
  /-- The snapshot of a welcome is not a state. -/
  | snapshotDecode
  /-- A tick does not follow the last one. -/
  | tickGap (tick localTick : UInt64)
  deriving DecidableEq, Inhabited

/-- The text of an error. -/
def ReplicaError.message : ReplicaError → String
  | .protocolMismatch protocol => "server speaks protocol " ++ codeNumeral protocol
  | .snapshotDecode => "failed to decode snapshot"
  | .tickGap tick localTick =>
    "tick " ++ toString tick.toNat ++ " does not follow local tick " ++ toString localTick.toNat

/-- What a message did. -/
inductive ReplicaEvent where
  | welcomed (client : ClientId) (tick : UInt64)
  | tickApplied (tick : UInt64) (inSync : Bool)
  | dropped (reason : RouteError)
  /-- There is no state yet that a tick could be applied to. -/
  | notReady (tick : UInt64)
  | avatar (entity : EntityId)
  | rejected (clientSeq : UInt32) (reason : String)
  | notice (notice : Notice)
  deriving DecidableEq, Inhabited

/-- A replica and what it was told. -/
structure Replica where
  library : Library
  settings : Settings
  /-- The state that follows the simulation, once there has been a welcome. -/
  machine : Option Machine
  client : Option ClientId
  router : TickRouter
  avatars : Table EntityId AvatarSnapshot
  notices : List Notice
  rejections : List (UInt32 × String)
  /-- How many ticks were applied. -/
  applied : UInt64
  /-- How many of them ended in another state than the simulation's. -/
  desyncs : UInt64
  deriving DecidableEq

namespace Replica

/-- A replica that has been told nothing. -/
def new (library : Library) (settings : Settings) : Replica where
  library
  settings
  machine := none
  client := none
  router := TickRouter.new
  avatars := Table.empty
  notices := []
  rejections := []
  applied := 0
  desyncs := 0

instance : Inhabited Replica := ⟨new default default⟩

/-- What a message did or why it could not be handled, the trace, and the replica afterwards. -/
abbrev Handled := Except ReplicaError ReplicaEvent × List TraceEntry × Replica

/-! ## Messages to one client -/

/-- Start from the snapshot of a welcome. -/
def welcome (replica : Replica) (welcome : Welcome) : Handled :=
  if welcome.protocol ≠ protocolVersion then
    (.error (.protocolMismatch welcome.protocol), [], replica)
  else
    match State.ofSnapshot? welcome.snapshot with
    | none => (.error .snapshotDecode, [], replica)
    | some state =>
      let budget := welcome.instructionBudget
      let own := replica.settings.instructionBudget
      let budgetNotes :=
        if budget = own then []
        else [TraceEntry.note .info
          ("server budget " ++ toString budget.toNat ++ " overrides local " ++ toString own.toNat)]
      let welcomeNote := TraceEntry.note .info
        ("welcomed as " ++ welcome.client.text ++ " at tick " ++ toString welcome.tick.toNat)
      let settings := { replica.settings with instructionBudget := budget }
      (.ok (.welcomed welcome.client welcome.tick), budgetNotes ++ [welcomeNote],
        { replica with
          settings
          machine := some ⟨replica.library, settings, state⟩
          client := some welcome.client
          router := TickRouter.startingAfter welcome.tick })

/-- Handle a message to one client. -/
def handleDirect (replica : Replica) : Direct → Handled
  | .welcome content => replica.welcome content
  | .commandRejected clientSeq reason =>
    let text := "command " ++ toString clientSeq.toNat ++ " rejected: " ++ reason
    (.ok (.rejected clientSeq reason), [.note .warn text],
      { replica with rejections := replica.rejections ++ [(clientSeq, reason)] })
  | .notice notice =>
    (.ok (.notice notice), [], { replica with notices := replica.notices ++ [notice] })

/-! ## Ticks -/

/-- What is noted of a tick that ended in another state than the simulation's. -/
def desyncNote (tick : UInt64) (own server : Bytes) : TraceEntry :=
  .note .error ("desync at tick " ++ toString tick.toNat ++ ": local " ++ own.hex ++ " server " ++
    server.hex)

/-- Apply a tick that was let through. -/
def applyTick (replica : Replica) (tick : BroadcastTick) : Handled :=
  match replica.machine with
  | none => (.ok (.notReady tick.tick), [], { replica with router := TickRouter.new })
  | some machine =>
    if tick.tick ≠ machine.state.tick + 1 then
      (.error (.tickGap tick.tick machine.state.tick), [], replica)
    else
      let outcome := machine.runTick tick.commands tick.seed
      let own := outcome.report.stateHash
      let inSync := own = tick.stateHash
      let notes := if inSync then [] else [desyncNote tick.tick own tick.stateHash]
      let desyncs := if inSync then replica.desyncs else replica.desyncs + 1
      (.ok (.tickApplied tick.tick inSync), outcome.trace ++ notes,
        { replica with
          machine := some outcome.machine
          applied := replica.applied + 1
          desyncs })

/-- Handle a message of the host. -/
def handle (replica : Replica) (message : ServerMessage) : Handled :=
  match replica.router.accept message with
  | .error reason =>
    (.ok (.dropped reason), [.note .debug ("dropping server message: " ++ reason.message)], replica)
  | .ok router =>
    let replica := { replica with router }
    match message with
    | .broadcastTick tick => replica.applyTick tick
    | .direct content => replica.handleDirect content
    | .avatarData data =>
      let entity := data.avatar.entity
      (.ok (.avatar entity), [],
        { replica with avatars := replica.avatars.insert entity data.avatar })

end Replica
end Lockstep
