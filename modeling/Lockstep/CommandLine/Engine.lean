import Lockstep.CommandLine.Program
import Lockstep.Json.Printer
import Lockstep.Server

/-!
# The engine program

Runs a world: without a network for a number of ticks, with a script of commands and with logs
written to files, or as a server on an address.
-/

set_option autoImplicit false

namespace Lockstep.CommandLine

variable {m : Type → Type} [Monad m] [FileSystem m]

/-- How many ticks are simulated when nothing else is said. -/
def defaultSimulatedTicks : UInt64 := 60

/-- The options that only make sense without a server, in the order in which they are looked at. -/
def simulationOptions : List String :=
  ["commands", "broadcast-log-json", "sound-log-json", "final-state-json"]

/-- What is wrong with options that do not go together. -/
def conflict? (arguments : Arguments) : Option String :=
  if arguments.word? "budget" = some 0 then some "--budget must be positive"
  else if arguments.word? "tick-rate" = some 0 then some "--tick-rate must be positive"
  else if arguments.has "serve" then
    (simulationOptions.find? arguments.has).map fun name =>
      "--" ++ name ++ " cannot be combined with --serve"
  else if arguments.has "ready-file" then some "--ready-file requires --serve"
  else if arguments.has "tick-rate" then some "--tick-rate requires --serve"
  else none

/-! ## Files -/

/-- The script in a file, in the order of ticks. -/
def loadScript (path : String) : ExceptT String m (List ScriptEntry) := do
  match ← (readText path : m (Option String)) with
  | none => throw ("reading command script " ++ path)
  | some text =>
    match (ofJsonText? text : Option (List ScriptEntry)) with
    | none => throw ("parsing command script " ++ path)
    | some script => return sortScript script

/-- Write a datum to a file, and print that it was written. -/
def saveJson (path label : String) (datum : Datum) : ExceptT String m Unit := do
  let parent := parentPath path
  if parent ≠ "" then
    if !(← (FileSystem.makeDirectory parent : m Bool)) then throw ("creating " ++ parent)
  if ← (FileSystem.writeFile path (Bytes.ofText (Json.pretty 0 datum)) : m Bool) then
    (printLines ["Saved " ++ label ++ " to " ++ path] : m Unit)
  else throw ("writing " ++ label ++ " to " ++ path)

/-- Write the files that were asked for, one after the other. -/
def saveAll : List (Option String × String × Datum) → ExceptT String m Unit
  | [] => pure ()
  | (none, _) :: rest => saveAll rest
  | (some path, label, datum) :: rest => do
    saveJson path label datum
    saveAll rest

/-! ## Simulating -/

/-- The lines that sum a simulation up. -/
def summaryLines (simulation : Simulation) : List String :=
  let state := simulation.host.machine.state
  ["Simulated " ++ toString simulation.reports.length ++ " ticks: " ++
      toString state.entities.size ++ " entities, " ++ toString state.threads.size ++
      " threads, " ++ toString simulation.faultCount ++ " faults, " ++
      toString simulation.rejections.length ++ " rejected commands",
    "Final state hash: " ++ simulation.finalHash]

/-- The world and the script that the options name. -/
def loadSimulation (arguments : Arguments) : ExceptT String m (World × List ScriptEntry) := do
  let loading : ExceptT LoadError m World := World.load ((arguments.value? "world").getD "")
  match ← (loading.run : m (Except LoadError World)) with
  | .error cause => throw cause.message
  | .ok world =>
    let script ← match arguments.value? "commands" with
      | none => pure []
      | some path => loadScript path
    return (world.withBudget (arguments.word? "budget"), script)

/-- Simulate, write the files that were asked for, and sum up. -/
def simulateBody (arguments : Arguments) : ExceptT String m Unit := do
  let (world, script) ← loadSimulation arguments
  let ticks := (arguments.long? "ticks").getD defaultSimulatedTicks
  let simulation := simulate world script ticks.toNat
  let reports := simulation.reports.reverse.map TickReport.logEntry
  let sounds := (soundEvents .recording simulation.trace.reverse).map SoundEvent.write
  saveAll
    [(arguments.value? "broadcast-log-json", "broadcast log", .list reports),
      (arguments.value? "sound-log-json", "sound log", .list sounds),
      (arguments.value? "final-state-json", "final state",
        Written.write simulation.host.machine.state)]
  (printLines (summaryLines simulation) : m Unit)

/-! ## Serving -/

/-- What a server is started with. -/
def serverOptions (arguments : Arguments) (address : String) : ServerOptions where
  world := (arguments.value? "world").getD ""
  address
  ticks := arguments.long? "ticks"
  tickRate := arguments.word? "tick-rate"
  readyFile := arguments.value? "ready-file"
  budget := arguments.word? "budget"

/-- Run a server. -/
def serveBody (listen : String → m (Option String)) (arguments : Arguments) (address : String) :
    ExceptT String m Unit := do
  let (_, result) ← (serve listen (serverOptions arguments address) :
    m (List TraceEntry × Except ServerError Unit))
  match result with
  | .ok () => return ()
  | .error cause => throw cause.message

/-- The engine program. The outer layer listens on addresses. -/
def engine (listen : String → m (Option String)) : Program m where
  name := "sima_engine"
  version := "sima_engine 0.1.0"
  about := "Deterministic behavior VM with a tick-synchronised network host"
  specs :=
    [⟨"world", .path, "Path to the JSON world manifest", none⟩,
      ⟨"serve", .text, "Run the authoritative server on this address instead of simulating",
        some "ADDR"⟩,
      ⟨"ticks", .long,
        "Number of ticks to run (server default: unlimited, simulation default: 60)", none⟩,
      ⟨"tick-rate", .word, "Override the manifest tick rate (server only)", none⟩,
      ⟨"ready-file", .path, "File written with the bound address once the server is listening",
        none⟩,
      ⟨"commands", .path, "JSON command script fed through the relay (simulation only)", none⟩,
      ⟨"broadcast-log-json", .path, "Path to write every tick report as JSON (simulation only)",
        none⟩,
      ⟨"sound-log-json", .path,
        "Path to write the sound bridge event log as JSON (simulation only)", none⟩,
      ⟨"final-state-json", .path, "Path to write the final VM state as JSON (simulation only)",
        none⟩,
      ⟨"budget", .word, "Override the per-thread instruction budget", none⟩]
  required := ["world"]
  others := []
  body arguments := do
    if let some message := conflict? arguments then throw message
    match arguments.value? "serve" with
    | some address => serveBody listen arguments address
    | none => simulateBody arguments

end Lockstep.CommandLine
