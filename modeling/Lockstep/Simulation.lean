import Lockstep.Relay
import Lockstep.Tick
import Lockstep.World

/-!
# Simulations

A host is a machine with a relay in front of it. In every step the machine runs one tick with the
commands that the relay has for it, and with a seed that follows from the world's. A simulation
runs a host for some ticks and submits the commands of a script when their time has come.
-/

set_option autoImplicit false

namespace Lockstep

/-! ## Hosts -/

/-- A machine, the relay of its commands, and the seed of its world. -/
structure Host where
  machine : Machine
  relay : Relay
  seed : UInt64
  deriving DecidableEq, Inhabited

namespace Host

/-- The host of a world before the first tick. -/
def ofWorld (world : World) : Host :=
  ⟨world.instantiate, Relay.new world.manifest.commandLead, world.manifest.seed⟩

/-- Submit the command of a client. A rejected command changes nothing. -/
def submit (host : Host) (client : ClientId) (command : Command) :
    Except Rejection (SequencedCommand × Host) :=
  (host.relay.submit client command host.machine).map fun (accepted, relay) =>
    (accepted, { host with relay })

/-- Note that a client has gone. -/
def disconnect (host : Host) (client : ClientId) : Option SequencedCommand × Host :=
  let (command, relay) := host.relay.disconnect client host.machine
  (command, { host with relay })

/-- Run the next tick with the commands that are due. -/
def step (host : Host) : TickReport × List TraceEntry × Host :=
  let tick := host.machine.state.tick + 1
  let (commands, late, relay) := host.relay.takeForTick tick
  let outcome := host.machine.runTick commands (tickSeed host.seed tick)
  (outcome.report, late ++ outcome.trace, { host with machine := outcome.machine, relay })

/-- What is noted of the events of a tick. -/
def eventNotes (report : TickReport) : List TraceEntry :=
  report.events.map fun event =>
    .note .debug ("tick " ++ toString report.tick.toNat ++ ": " ++ event)

end Host

/-! ## Scripts -/

/-- A command of a script, submitted as soon as the tick has passed. -/
structure ScriptEntry where
  tick : UInt64
  client : ClientId
  sentAt : UInt64
  command : CommandAction
  deriving DecidableEq, Inhabited

instance : Written ScriptEntry where
  write entry := .record
    [("tick", Written.write entry.tick), ("client", Written.write entry.client),
      ("sent_at_ms", Written.write entry.sentAt), ("command", Written.write entry.command)]
  read encoding datum := do
    let fields ← datum.fields? encoding ["tick", "client", "sent_at_ms", "command"]
    let tick ← fields.required "tick"
    let client ← fields.required "client"
    let sentAt ← fields.defaulted "sent_at_ms" 0
    let command ← fields.required "command"
    some ⟨tick, client, sentAt, command⟩

/-- The entries of a script in the order of their ticks. -/
def sortScript (script : List ScriptEntry) : List ScriptEntry :=
  script.mergeSort fun first second => first.tick ≤ second.tick

/-- A command of a script that was rejected. -/
structure ScriptRejection where
  tick : UInt64
  client : ClientId
  action : CommandAction
  reason : Rejection
  deriving DecidableEq, Inhabited

/-- A rejected command as data. -/
def ScriptRejection.write (rejection : ScriptRejection) : Datum :=
  .record
    [("tick", Written.write rejection.tick), ("client", Written.write rejection.client),
      ("action", .text rejection.action.label), ("reason", .text rejection.reason.message)]

/-! ## Runs -/

/-- A simulation under way. What it has given so far is listed with the latest first. -/
structure Simulation where
  host : Host
  script : List ScriptEntry
  /-- How many commands of each client were submitted. -/
  clientSeqs : Table ClientId UInt32
  reports : List TickReport
  rejections : List ScriptRejection
  trace : List TraceEntry

namespace Simulation

/-- The simulation of a world with a script, before the first tick. -/
def start (world : World) (script : List ScriptEntry) : Simulation where
  host := Host.ofWorld world
  script
  clientSeqs := Table.empty
  reports := []
  rejections := []
  trace := []

/-- Submit a command of the script. -/
def submit (simulation : Simulation) (entry : ScriptEntry) : Simulation :=
  let clientSeq := (simulation.clientSeqs.get? entry.client).getD 0 + 1
  let clientSeqs := simulation.clientSeqs.insert entry.client clientSeq
  match simulation.host.submit entry.client ⟨clientSeq, entry.sentAt, entry.command⟩ with
  | .ok (command, host) =>
    { simulation with
      host
      clientSeqs
      trace := Relay.acceptanceNote command :: simulation.trace }
  | .error reason =>
    let text := entry.client.text ++ " rejected " ++ entry.command.label ++ ": " ++ reason.message
    let rejection : ScriptRejection :=
      ⟨simulation.host.machine.state.tick, entry.client, entry.command, reason⟩
    { simulation with
      clientSeqs
      rejections := rejection :: simulation.rejections
      trace := .note .warn text :: simulation.trace }

/-- Submit the commands of the script whose time has come. -/
def submitDue (simulation : Simulation) : Simulation :=
  let now := simulation.host.machine.state.tick
  let due := simulation.script.takeWhile fun entry => entry.tick ≤ now
  let later := simulation.script.dropWhile fun entry => entry.tick ≤ now
  due.foldl submit { simulation with script := later }

/-- Run one tick. -/
def step (simulation : Simulation) : Simulation :=
  let ready := simulation.submitDue
  let (report, trace, host) := ready.host.step
  { ready with
    host
    reports := report :: ready.reports
    trace := (trace ++ Host.eventNotes report).reverse ++ ready.trace }

/-- Run some ticks. -/
def run : Nat → Simulation → Simulation
  | 0, simulation => simulation
  | ticks + 1, simulation => run ticks simulation.step

/-- How many threads failed in all ticks. -/
def faultCount (simulation : Simulation) : Nat :=
  (simulation.reports.flatMap TickReport.faults).length

/-- The hash of the state after the last tick; empty if there was none. -/
def finalHash (simulation : Simulation) : String :=
  match simulation.reports with
  | [] => ""
  | report :: _ => report.stateHash.hex

end Simulation

/-- The simulation of a world with a script, after some ticks. -/
def simulate (world : World) (script : List ScriptEntry) (ticks : Nat) : Simulation :=
  (Simulation.start world script).run ticks

end Lockstep
