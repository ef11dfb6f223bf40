import Lockstep.Primitive.Run
import Lockstep.Thread.Unwind

/-!
# Turns of threads

In every tick each thread has one turn. `step` executes one instruction of a thread, and `runTurn`
executes instructions until the thread gives way, ends, fails, or is removed together with the
entity that it belongs to. A turn that takes more instructions than the budget allows ends the
thread, whatever its frames catch.
-/

set_option autoImplicit false

namespace Lockstep

/-- A tick that is under way: the state, the random numbers that are left, and what the tick has
given to the outside so far. -/
structure Underway where
  state : State
  random : Random.Stream
  effects : Effects
  deriving DecidableEq

/-- How a turn ended. -/
inductive TurnEnd where
  | yielded
  | completed (result : Bool)
  | faulted (fault : ThreadFault)
  /-- The thread was removed with its owner. -/
  | removed
  deriving DecidableEq, Inhabited

/-- What follows an instruction. -/
inductive Flow where
  | next
  | done (ending : TurnEnd)
  deriving DecidableEq, Inhabited

namespace Underway

/-! ## Ends of threads -/

/-- Note that a thread has returned from its outermost frame, and remove it. -/
def complete (underway : Underway) (id : ThreadId) (result : Bool) : Flow × Underway :=
  let text := "thread " ++ id.text ++ " finished (" ++ toString result ++ ")"
  (.done (.completed result),
    { underway with
      state := underway.state.removeThread id
      effects := underway.effects.addNote .debug text })

/-- Note that a thread has failed, and remove it. -/
def abort (underway : Underway) (id : ThreadId) (fault : ThreadFault) : Flow × Underway :=
  let text := "thread " ++ id.text ++ " aborted: " ++ fault.message
  (.done (.faulted fault),
    { underway with
      state := underway.state.removeThread id
      effects := underway.effects.addNote .warn text })

/-- Note that a thread has caught a fault. -/
def catchFault (id : ThreadId) (effects : Effects) (fault : ThreadFault) : Effects :=
  let start := "thread " ++ id.text ++ " caught "
  (effects.addNote .debug (start ++ fault.message)).addEvent (start ++ fault.label)

/-- Give a thread other temporary values and other frames. -/
def putThread (underway : Underway) (id : ThreadId) (temps : Vector Int16 8)
    (frames : List StackFrame) : Underway :=
  let threads := underway.state.threads.modify id fun thread => { thread with temps, frames }
  { underway with state := { underway.state with threads } }

/-- Put a thread where it is after frames have been left. -/
def land (underway : Underway) (id : ThreadId) (temps : Vector Int16 8) (unwinding : Unwinding) :
    Flow × Underway :=
  let underway := { underway with effects := unwinding.caught.foldl (catchFault id) underway.effects }
  match unwinding.landing with
  | .resumed frames => (.next, underway.putThread id temps frames)
  | .completed result => underway.complete id result
  | .aborted fault => underway.abort id fault

/-! ## Removals -/

/-- Take an entity out of the world, if it is still there. -/
def remove (underway : Underway) (id : EntityId) : Underway :=
  match underway.state.despawn id with
  | none => underway
  | some (trace, state) =>
    let effects := (underway.effects.addTrace trace).addEvent ("removed " ++ id.text)
    { underway with state, effects }

/-! ## Instructions -/

/-- The innermost frame of a thread about to execute an
instruction that had given way, if it had. -/
structure Fetched where
  frame : StackFrame
  callers : List StackFrame
  temps : Vector Int16 8
  resumed : Option UInt32

/-- Call a behavior. -/
def call (library : Library) (id : ThreadId) (fetched : Fetched) (request : Call)
    (underway : Underway) : Flow × Underway :=
  let frame := fetched.frame
  if !library.contains request.behavior then
    underway.abort id (.unknownPrimitive frame.place request.behavior)
  else if maxStackDepth ≤ fetched.callers.length + 1 then
    underway.land id fetched.temps
      (unwind library frame.catchErrors fetched.callers (.failed (.stackOverflow frame.place)))
  else
    let callee := StackFrame.new request.behavior frame.caller frame.stackObject request.args
    let callee := { callee with catchErrors := request.flags.catchesErrors }
    underway.land id fetched.temps ⟨[], .resumed (callee :: frame :: fetched.callers)⟩

/-- Put the thread where a primitive leaves it. -/
def finish (library : Library) (id : ThreadId) (instruction : Instruction) (kind : PrimitiveKind)
    (frame : StackFrame) (callers : List StackFrame) (temps : Vector Int16 8) (exit : Exit)
    (underway : Underway) : Flow × Underway :=
  match exit with
  | .branch result =>
    underway.land id temps (frame.follow library callers (instruction.target result))
  | .fault fault =>
    underway.land id temps
      (unwind library frame.catchErrors callers (.failed (.primitive frame.place kind fault)))
  | .yield progress =>
    let frame := { frame with pending := some progress }
    (.done .yielded, underway.putThread id temps (frame :: callers))

/-- Carry a primitive out, and then the removals that it asked for. -/
def perform (library : Library) (id : ThreadId) (fetched : Fetched) (instruction : Instruction)
    (action : Primitive) (underway : Underway) : Flow × Underway :=
  let state := underway.state
  let (exit, context) := Primitive.dispatch action.kind (.primitive action) fetched.resumed
    { owner := id.owner
      entities := state.entities
      sounds := state.sounds
      frame := fetched.frame
      temps := fetched.temps
      random := underway.random
      effects := underway.effects
      removals := [] }
  let underway : Underway :=
    { state := { state with entities := context.entities, sounds := context.sounds }
      random := context.random
      effects := context.effects }
  let underway := context.removals.foldl remove underway
  if underway.state.threads.contains id then
    finish library id instruction action.kind context.frame fetched.callers context.temps exit underway
  else (.done .removed, underway)

/-- Execute the current instruction of a thread. -/
def execute (library : Library) (id : ThreadId) (fetched : Fetched) (underway : Underway) :
    Flow × Underway :=
  let frame := fetched.frame
  let fail (fault : ThreadFault) : Flow × Underway :=
    underway.land id fetched.temps (unwind library frame.catchErrors fetched.callers (.failed fault))
  if !library.contains frame.behavior then underway.abort id (.missingBehavior frame.behavior)
  else
    match library.instruction? frame.behavior frame.pc with
    | none => fail (.branchOutOfRange frame.place frame.pc)
    | some instruction =>
      match instruction.decodeOperand with
      | .error (.unknownPrimitive opcode) => underway.abort id (.unknownPrimitive frame.place opcode)
      | .error cause => fail (.malformedOperand frame.place cause)
      | .ok (.call request) => call library id fetched request underway
      | .ok (.primitive action) => perform library id fetched instruction action underway

/-- Execute one instruction of a thread. A thread without frames has completed. -/
def step (library : Library) (id : ThreadId) (thread : Thread) (underway : Underway) :
    Flow × Underway :=
  match thread.frames with
  | [] => underway.complete id true
  | frame :: callers =>
    execute library id ⟨{ frame with pending := none }, callers, thread.temps, frame.pending⟩ underway

/-- Execute at most so many instructions of a thread. -/
def runInstructions (library : Library) (budget : UInt32) (id : ThreadId) :
    Nat → Underway → TurnEnd × Underway
  | 0, underway =>
    if underway.state.threads.contains id then
      (.faulted (.budgetExceeded budget), (underway.abort id (.budgetExceeded budget)).2)
    else (.removed, underway)
  | remaining + 1, underway =>
    match underway.state.threads.get? id with
    | none => (.removed, underway)
    | some thread =>
      match step library id thread underway with
      | (.next, underway) => runInstructions library budget id remaining underway
      | (.done ending, underway) => (ending, underway)

/-- The turn of a thread. -/
def runTurn (library : Library) (budget : UInt32) (id : ThreadId) (underway : Underway) :
    TurnEnd × Underway :=
  runInstructions library budget id budget.toNat underway

end Underway
end Lockstep
