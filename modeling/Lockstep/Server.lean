import Lockstep.Message.Frame
import Lockstep.Server.Address
import Lockstep.Simulation

/-!
# Tick servers

A server runs the host of a world in real time and tells its clients of every tick. What follows is
a server that no client has come to yet: it loads its world, takes an address, and then runs
ticks, for each of which it makes the messages that it would send. A message that is too long to be
sent ends it.
-/

set_option autoImplicit false

namespace Lockstep

/-! ## Running -/

/-- What a server is started with. -/
structure ServerOptions where
  world : String
  address : String
  /-- After how many ticks the server stops, if it does. -/
  ticks : Option UInt64
  tickRate : Option UInt32
  readyFile : Option String
  budget : Option UInt32
  deriving DecidableEq, Inhabited

/-- Why a server stops before its time. -/
inductive ServerError where
  | load (cause : LoadError)
  /-- The address cannot be taken. -/
  | bind
  | readyFile (path : String)
  | encode (cause : FrameError)
  deriving DecidableEq, Inhabited

/-- The text of an error that says that a message cannot be sent. -/
def encodeErrorText (cause : FrameError) : String := "message encode failed: " ++ cause.message

/-- The text of an error that says that an address cannot be taken. -/
def bindErrorText : String := "binding tick server socket"

/-- The text of an error. -/
def ServerError.message : ServerError → String
  | .load cause => cause.message
  | .bind => bindErrorText
  | .readyFile path => "writing ready file " ++ path
  | .encode cause => encodeErrorText cause

namespace Host

/-- What is done with a message to the client of an entity: it is sent, or noted when the entity has
no client. -/
def deliverNotice (machine : Machine) (notice : Notice) : Except FrameError (List TraceEntry) :=
  match machine.state.clientOf? notice.entity with
  | some _ => (ServerMessage.direct (.notice notice)).encode.map fun _ => []
  | none =>
    .ok [.note .debug ("notice " ++ toString notice.message.toNat ++ " for uncontrolled " ++
      notice.entity.text)]

/-- Make the messages of a tick: the broadcast, and how its avatars look. -/
def encodeTick (report : TickReport) : Except FrameError Unit := do
  let _ ← (ServerMessage.broadcastTick report.broadcast).encode
  report.avatars.forM fun avatar => do
    let _ ← (ServerMessage.avatarData ⟨report.tick, avatar⟩).encode

/-- Run one tick and tell of it. Gives the trace also when a message cannot be sent. -/
def serveTick (host : Host) : List TraceEntry × Except FrameError Host :=
  let (report, trace, host) := host.step
  let trace := trace ++ eventNotes report
  match encodeTick report with
  | .error cause => (trace, .error cause)
  | .ok () =>
    match report.notices.mapM (deliverNotice host.machine) with
    | .error cause => (trace, .error cause)
    | .ok notes => (trace ++ notes.flatten, .ok host)

/-- Run some ticks. The trace so far is given with the latest entry first. -/
def serveTicks : Nat → Host → List TraceEntry → List TraceEntry × Except FrameError Host
  | 0, host, reversed => (reversed, .ok host)
  | ticks + 1, host, reversed =>
    match host.serveTick with
    | (trace, .ok host) => serveTicks ticks host (trace.reverse ++ reversed)
    | (trace, .error cause) => (trace.reverse ++ reversed, .error cause)

end Host

/-- What is noted of a server when it stops in time. -/
def stopNote (machine : Machine) : TraceEntry :=
  .note .info ("stopped after tick " ++ toString machine.state.tick.toNat ++ " with state hash " ++
    machine.state.hash.hex)

/-- Run a server. The outer layer says under which text the server is known once it has taken its
address, if it can take it. -/
def serve {m : Type → Type} [Monad m] [FileSystem m] (listen : String → m (Option String))
    (options : ServerOptions) : m (List TraceEntry × Except ServerError Unit) := do
  let loading : ExceptT LoadError m World := World.load options.world
  match ← loading.run with
  | .error cause => return ([], .error (.load cause))
  | .ok loaded =>
    let world := loaded.withBudget options.budget
    let loadNote := loaded.loadNote options.world
    match ← listen options.address with
    | none => return ([loadNote], .error .bind)
    | some address =>
      let listenNote := TraceEntry.note .info ("tick server listening on " ++ address)
      let ready ← match options.readyFile with
        | none => pure true
        | some path => FileSystem.writeFile path (Bytes.ofText address)
      if !ready then
        return ([loadNote, listenNote], .error (.readyFile (options.readyFile.getD "")))
      let rate := max (options.tickRate.getD world.manifest.tickRate) 1
      let rateNote := TraceEntry.note .info
        ("serving " ++ address ++ " at " ++ toString rate.toNat ++ " Hz")
      let limit := (options.ticks.getD 0xFFFFFFFFFFFFFFFF).toNat
      match Host.serveTicks limit (Host.ofWorld world) [rateNote, listenNote, loadNote] with
      | (reversed, .ok host) => return ((stopNote host.machine :: reversed).reverse, .ok ())
      | (reversed, .error cause) => return (reversed.reverse, .error (.encode cause))

end Lockstep
