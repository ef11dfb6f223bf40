import Lockstep.Tick.Commands
import Lockstep.Tick.Deltas

/-!
# Ticks

A tick applies the commands that are due, and then gives every thread one turn in the order of
their identities. Its outcome depends on nothing but the machine, the commands and the seed, which
is why replicas that are given the same stay in step. `Machine.runTick` gives the machine after the
tick, a report, and the trace.
-/

set_option autoImplicit false

namespace Lockstep

/-- The seed of a tick: the first eight bytes of a digest of the world's seed and the tick. -/
def tickSeed (worldSeed tick : UInt64) : UInt64 :=
  let digest := Digest.ofBytes
    (Bytes.littleEndian 8 worldSeed.toNat ++ Bytes.littleEndian 8 tick.toNat)
  UInt64.ofNat (Bytes.ofLittleEndian (digest.take 8))

/-- A thread that failed. -/
structure FaultRecord where
  thread : ThreadId
  fault : ThreadFault
  deriving DecidableEq, Inhabited

/-- What a tick was made of, and what it did. -/
structure TickReport where
  tick : UInt64
  seed : UInt64
  status : TickStatus
  commands : List SequencedCommand
  faults : List FaultRecord
  events : List String
  notices : List Notice
  deltas : List EntityDelta
  avatars : List AvatarSnapshot
  /-- The hash of the state after the tick. -/
  stateHash : Bytes
  deriving DecidableEq, Inhabited

/-- The message that tells clients of a tick. -/
def TickReport.broadcast (report : TickReport) : BroadcastTick where
  tick := report.tick
  seed := report.seed
  commands := report.commands
  deltas := report.deltas
  status := report.status
  stateHash := report.stateHash

/-- What a tick gives: the machine after it, the report, and the trace in the order in which it
happened. -/
structure TickOutcome where
  machine : Machine
  report : TickReport
  trace : List TraceEntry

namespace Machine

/-- The turns of some threads, one after the other, and the threads that failed in them. -/
def runTurns (machine : Machine) :
    List ThreadId → Underway → List FaultRecord → List FaultRecord × Underway
  | [], underway, reversed => (reversed.reverse, underway)
  | id :: rest, underway, reversed =>
    match Underway.runTurn machine.library machine.settings.turnBudget id underway with
    | (.faulted fault, underway) => machine.runTurns rest underway (⟨id, fault⟩ :: reversed)
    | (_, underway) => machine.runTurns rest underway reversed

/-- Whether threads failed, and how many. -/
def statusOf (faults : List FaultRecord) : TickStatus :=
  if faults.isEmpty then .ok else .threadErrors (UInt32.ofNat (min faults.length 0xFFFFFFFF))

/-- The tick with some commands, under way after its commands were applied. -/
def begin (machine : Machine) (commands : List SequencedCommand) (seed : UInt64) : Underway :=
  commands.foldl (Underway.applyCommand machine.library machine.settings)
    ⟨machine.state, Random.Stream.ofSeed seed, Effects.none⟩

/-- Run one tick with some commands, in the order of their sequence numbers. -/
def runTick (machine : Machine) (commands : List SequencedCommand) (seed : UInt64) : TickOutcome :=
  let tick := machine.state.tick + 1
  let ordered := SequencedCommand.sort commands
  let begun := machine.begin ordered seed
  let (faults, ended) := machine.runTurns begun.state.threads.keys begun []
  let sounds := ended.state.sounds.refresh ended.state.entities
  let state := { ended.state with sounds, tick }
  { machine := { machine with state }
    report :=
      { tick
        seed
        status := statusOf faults
        commands := ordered
        faults
        events := ended.effects.events.reverse
        notices := ended.effects.notices.reverse
        deltas := state.entities.deltasSince machine.state.entities.summaries
        avatars := state.entities.snapshotsSince machine.state.entities.snapshots
        stateHash := state.hash }
    trace := ended.effects.trace.reverse }

end Machine

/-! ## Reports as data -/

/-- A failed thread as data. -/
def FaultRecord.write (record : FaultRecord) : Datum :=
  .record
    [("thread", Written.write record.thread), ("kind", .text record.fault.label),
      ("message", .text record.fault.message)]

/-- The fields of a report without the hash. -/
def TickReport.fields (report : TickReport) : List (String × Datum) :=
  [("tick", Written.write report.tick), ("seed", Written.write report.seed),
    ("status", Written.write report.status), ("commands", Written.write report.commands),
    ("faults", .list (report.faults.map FaultRecord.write)),
    ("events", Written.write report.events), ("notices", Written.write report.notices),
    ("deltas", Written.write report.deltas), ("avatars", Written.write report.avatars)]

/-- A report as an entry of a log, with the hash as bytes and in hexadecimal. -/
def TickReport.logEntry (report : TickReport) : Datum :=
  .record (report.fields ++
    [("state_hash", .bytes report.stateHash), ("state_hash_hex", .text report.stateHash.hex)])

end Lockstep
