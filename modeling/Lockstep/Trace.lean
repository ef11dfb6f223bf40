import Lockstep.Message
import Lockstep.Sound
import Lockstep.Text.Numeral

/-!
# Traces

While the simulation runs it asks for sounds and takes notes. Both go into one trace, in the order
in which they happen. A host that plays sounds takes the sound events from the trace and logs
the notes; a host without a player logs the sound events too.

`Effects` gathers what a tick gives to the outside. Its lists have the latest entry first.
-/

set_option autoImplicit false

namespace Lockstep

/-- How much a note matters. -/
inductive LogLevel where
  | error | warn | info | debug
  deriving DecidableEq, Inhabited

/-- The word for a level. -/
def LogLevel.text : LogLevel → String
  | .error => "ERROR"
  | .warn => "WARN"
  | .info => "INFO"
  | .debug => "DEBUG"

/-- One entry of a trace. -/
inductive TraceEntry where
  | sound (event : SoundEvent)
  | note (level : LogLevel) (text : String)
  deriving DecidableEq, Inhabited

/-- What happens to sound events: they are kept for a player, or logged. -/
inductive SoundRoute where
  | recording | logging
  deriving DecidableEq, Inhabited

/-- The line that logs a sound event. -/
def SoundEvent.logText : SoundEvent → String
  | .play channel sound volume owner =>
    "sound play channel=" ++ toString channel.number.toNat ++ " sound=" ++ hexNumeral sound.toNat ++
      " volume=" ++ toString volume.toNat ++ " owner=" ++ owner.text
  | .release channel owner =>
    "sound release channel=" ++ toString channel.number.toNat ++ " owner=" ++ owner.text

namespace TraceEntry

/-- A line of the log. -/
def logLine (level : LogLevel) (text : String) : String := level.text ++ " " ++ text

/-- The line of the log that an entry makes. -/
def line? (route : SoundRoute) : TraceEntry → Option String
  | .note level text => some (logLine level text)
  | .sound event =>
    match route with
    | .recording => none
    | .logging => some (logLine .debug event.logText)

/-- The sound event that a player gets from an entry. -/
def event? (route : SoundRoute) : TraceEntry → Option SoundEvent
  | .note .. => none
  | .sound event =>
    match route with
    | .recording => some event
    | .logging => none

end TraceEntry

/-- The lines of the log that a trace makes. -/
def logLines (route : SoundRoute) (trace : List TraceEntry) : List String :=
  trace.filterMap (TraceEntry.line? route)

/-- The sound events that a player gets from a trace. -/
def soundEvents (route : SoundRoute) (trace : List TraceEntry) : List SoundEvent :=
  trace.filterMap (TraceEntry.event? route)

/-! ## Effects -/

/-- What a tick gives to the outside, latest first: lines for people to read, messages to clients,
and the trace. -/
structure Effects where
  events : List String
  notices : List Notice
  trace : List TraceEntry
  deriving DecidableEq, Inhabited

namespace Effects

/-- Nothing. -/
def none : Effects := ⟨[], [], []⟩

/-- Add a line. -/
def addEvent (effects : Effects) (text : String) : Effects :=
  { effects with events := text :: effects.events }

/-- Add a message to a client. -/
def addNotice (effects : Effects) (notice : Notice) : Effects :=
  { effects with notices := notice :: effects.notices }

/-- Add entries to the trace, in the order in which they happened. -/
def addTrace (effects : Effects) (entries : List TraceEntry) : Effects :=
  { effects with trace := entries.reverse ++ effects.trace }

/-- Take a note. -/
def addNote (effects : Effects) (level : LogLevel) (text : String) : Effects :=
  effects.addTrace [.note level text]

end Effects
end Lockstep
