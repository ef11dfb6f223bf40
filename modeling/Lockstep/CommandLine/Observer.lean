import Lockstep.CommandLine.Program
import Lockstep.World

/-!
# The observer program

Loads the world that a server was started with and a script of commands, and then connects to the
server to follow it. Connecting is up to the outer layer; a server that cannot be reached ends the
program.
-/

set_option autoImplicit false

namespace Lockstep.CommandLine

variable {m : Type → Type} [Monad m] [FileSystem m]

/-- A command that an observer sends once its replica has reached a tick. -/
structure ObserverEntry where
  tick : UInt64
  command : CommandAction
  deriving DecidableEq, Inhabited

instance : Written ObserverEntry where
  write entry := .record
    [("tick", Written.write entry.tick), ("command", Written.write entry.command)]
  read encoding datum := do
    let fields ← datum.fields? encoding ["tick", "command"]
    let tick ← fields.required "tick"
    let command ← fields.required "command"
    some ⟨tick, command⟩

/-- The script in a file, in the order of ticks. -/
def loadObserverScript (path : String) : ExceptT String m (List ObserverEntry) := do
  match ← (readText path : m (Option String)) with
  | none => throw ("reading observer script " ++ path)
  | some text =>
    match (ofJsonText? text : Option (List ObserverEntry)) with
    | none => throw ("parsing observer script " ++ path)
    | some script => return script.mergeSort fun first second => first.tick ≤ second.tick

/-- The address that an observer connects to when nothing else is said. -/
def defaultServerAddress : String := "127.0.0.1:17500"

/-- What an observer needs before it connects. -/
def loadObservation (arguments : Arguments) : ExceptT String m (World × List ObserverEntry) := do
  let loading : ExceptT LoadError m World := World.load ((arguments.value? "world").getD "")
  match ← (loading.run : m (Except LoadError World)) with
  | .error cause => throw cause.message
  | .ok world =>
    match arguments.value? "script" with
    | none => return (world, [])
    | some path => return (world, ← loadObserverScript path)

/-- What the observer program does up to the point where it would be connected. -/
def observerBody (arguments : Arguments) : ExceptT String m Unit := do
  let _ ← loadObservation arguments
  let address := (arguments.value? "connect").getD defaultServerAddress
  throw ("connecting to " ++ address)

/-- The observer program. -/
def observer : Program m where
  name := "sima_observer"
  version := "sima_observer 0.1.0"
  about := "Replays a tick server's broadcasts on a local replica"
  specs :=
    [⟨"connect", .text,
        "Server address (host:port) [default: " ++ defaultServerAddress ++ "]", none⟩,
      ⟨"world", .path, "World manifest the server was started with", none⟩,
      ⟨"script", .path,
        "JSON list of \x60\x7btick, command\x7d\x60 entries sent once the replica reaches \x60tick\x60",
        none⟩,
      ⟨"ticks", .long, "Stop after this many ticks have been replayed", none⟩,
      ⟨"report-json", .path, "Path to write the observation summary as JSON", none⟩]
  required := ["world"]
  others := []
  body := observerBody

end Lockstep.CommandLine
