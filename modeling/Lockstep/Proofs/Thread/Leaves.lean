import Lockstep.Proofs.Thread.Nested
import Lockstep.Proofs.Thread.Spares

/-!
# What a turn leaves

A turn either ends with its thread asleep or animating, with its frames nested, or the thread is
gone (`Underway.runTurn_leaves`). It never leaves its thread in the middle of a computation. Of the
other threads it changes none, though it may remove some together with their owners.

An instruction leaves its thread nested as long as the turn goes on (`Underway.step_leaves`); that
is what carries the proof through the instructions of a turn.
-/

set_option autoImplicit false

namespace Lockstep

/-! ## Threads that are nested, and threads that wait -/

namespace Thread

/-- The frames of a thread are nested, and there are not too many of them. -/
def Nested (library : Library) (thread : Thread) : Prop :=
  Lockstep.Nested library thread.frames ∧ thread.frames.length ≤ maxStackDepth

/-- The innermost frame is in the middle of sleeping or animating. -/
def Waits (library : Library) (thread : Thread) : Prop :=
  ∃ top progress action, thread.frames.head? = some top ∧ top.pending = some progress ∧
    top.operand? library = some (.primitive action) ∧ action.Waits

/-- A thread between two turns. It has at least one frame and at most sixty-four, the outermost of
which catches no errors. All of them have the same caller, and each but the innermost is at a call
of the behavior of the frame on top of it. The innermost one waits. -/
structure Parked (library : Library) (thread : Thread) : Prop where
  depth : 1 ≤ thread.frames.length ∧ thread.frames.length ≤ maxStackDepth
  rooted : ∃ root, thread.frames.getLast? = some root ∧ root.catchErrors = false ∧
    ∀ frame ∈ thread.frames, frame.caller = root.caller
  calls : thread.frames.IsChain (StackFrame.Calls library)
  waits : thread.Waits library

variable {library : Library}

theorem nested_new (id : ThreadId) (root : StackFrame) (catchless : root.catchErrors = false) :
    (Thread.new id root).Nested library :=
  ⟨.root catchless, Nat.succ_le_succ (Nat.zero_le 63)⟩

theorem Nested.parked {thread : Thread} (nested : thread.Nested library)
    (waits : thread.Waits library) : thread.Parked library where
  depth := ⟨nested.1.length_pos, nested.2⟩
  rooted := nested.1.rooted
  calls := nested.1.calls
  waits

theorem Parked.nested {thread : Thread} (parked : thread.Parked library) :
    thread.Nested library := by
  obtain ⟨root, last, catchless, _⟩ := parked.rooted
  exact ⟨nested_of_calls parked.calls last catchless, parked.depth.2⟩

end Thread

/-! ## What is left of a thread -/

/-- What a turn that ended like this leaves of its thread: the thread waits if it gave way, and is
gone otherwise. -/
def TurnEnd.Leaves (library : Library) (held : Option Thread) : TurnEnd → Prop
  | .yielded => ∃ thread, held = some thread ∧ thread.Parked library
  | .completed _ => held = none
  | .faulted _ => held = none
  | .removed => held = none

theorem TurnEnd.Leaves.parked {library : Library} {ending : TurnEnd} {thread : Thread}
    (leaves : ending.Leaves library (some thread)) : thread.Parked library := by
  cases ending with
  | yielded =>
    obtain ⟨left, same, parked⟩ := leaves
    rw [Option.some.inj same]
    exact parked
  | completed result => exact absurd leaves (Option.some_ne_none thread)
  | faulted fault => exact absurd leaves (Option.some_ne_none thread)
  | removed => exact absurd leaves (Option.some_ne_none thread)

/-- What an instruction leaves of its thread. -/
def Flow.Leaves (library : Library) (held : Option Thread) : Flow → Prop
  | .next => ∃ thread, held = some thread ∧ thread.Nested library
  | .done ending => ending.Leaves library held

namespace Underway

/-- An instruction leaves of its own thread what fits what follows, and spares all others. -/
structure Leaves (library : Library) (id : ThreadId) (before : Underway)
    (outcome : Flow × Underway) : Prop where
  own : outcome.1.Leaves library (outcome.2.state.threads.get? id)
  others : ThreadTable.Spares id before.state.threads outcome.2.state.threads

variable {library : Library} {underway : Underway} {id : ThreadId}

theorem get?_removeThread (state : State) (id : ThreadId) :
    (state.removeThread id).threads.get? id = none :=
  Table.get?_erase_self ..

theorem complete_leaves (underway : Underway) (id : ThreadId) (result : Bool) :
    Leaves library id underway (underway.complete id result) :=
  ⟨get?_removeThread underway.state id, spares_complete underway id result⟩

theorem abort_leaves (underway : Underway) (id : ThreadId) (fault : ThreadFault) :
    Leaves library id underway (underway.abort id fault) :=
  ⟨get?_removeThread underway.state id, spares_abort underway id fault⟩

theorem get?_putThread {thread : Thread} (found : underway.state.threads.get? id = some thread)
    (temps : Vector Int16 8) (frames : List StackFrame) :
    (underway.putThread id temps frames).state.threads.get? id =
      some { thread with temps, frames } :=
  (Table.get?_modify_self ..).trans (congrArg (Option.map _) found)

theorem land_leaves (present : underway.state.threads.contains id = true)
    (temps : Vector Int16 8) {unwinding : Unwinding}
    (nested : unwinding.landing.Nested library maxStackDepth) :
    Leaves library id underway (underway.land id temps unwinding) := by
  obtain ⟨caught, landing⟩ := unwinding
  refine ⟨?_, spares_land underway id temps _⟩
  rw [land]
  cases landing with
  | resumed frames =>
    obtain ⟨thread, found⟩ := Table.contains_iff.mp present
    exact ⟨_, get?_putThread found temps frames, nested⟩
  | completed result => exact get?_removeThread underway.state id
  | aborted fault => exact get?_removeThread underway.state id

/-! ## Instructions -/

/-- Frames are left from the innermost one on. -/
theorem fail_leaves (present : underway.state.threads.contains id = true) {frame : StackFrame}
    {callers : List StackFrame} (nested : Nested library (frame :: callers))
    (depth : (frame :: callers).length ≤ maxStackDepth) (temps : Vector Int16 8)
    (catches : Bool) (resolution : Resolution) :
    Leaves library id underway
      (underway.land id temps (unwind library catches callers resolution)) :=
  land_leaves present temps ((unwind_nested nested catches resolution).mono (Nat.le_of_succ_le depth))

/-- A primitive leaves its frame on those that have called it. -/
theorem Performs.nested {before : Underway} {temps : Vector Int16 8} {frame : StackFrame}
    {callers : List StackFrame} {instruction : Instruction} {action : Primitive} {exit : Exit}
    {context : Context}
    (performs : Performs library id before temps frame callers instruction action exit context)
    (nested : Nested library (frame :: callers)) : Nested library (context.frame :: callers) := by
  have idle : Nested library ({ frame with pending := none } :: callers) :=
    nested.replace rfl rfl rfl
  exact idle.sameCall performs.sameCall

theorem Outcome.leaves {before : Underway} {thread : Thread} {after : Flow × Underway}
    (outcome : Outcome library id before thread after)
    (present : before.state.threads.contains id = true) (nested : thread.Nested library) :
    Leaves library id before after := by
  have spares := outcome.spares
  obtain ⟨nested, depth⟩ := nested
  cases outcome with
  | completes => exact complete_leaves before id true
  | refuses refusal => exact abort_leaves before id _
  | fails failure => exact fail_leaves present nested depth _ _ _
  | @calls _ temps frame callers _ request found decoded loaded shallow =>
    have atCall : frame.operand? library = some (.call request) :=
      StackFrame.operand?_eq found decoded
    have stacked : Nested library
        (frame.callee request :: { frame with pending := none } :: callers) :=
      .call ⟨rfl, rfl, request, atCall, rfl, rfl⟩ (nested.replace rfl rfl rfl)
    exact land_leaves present temps ⟨stacked, shallow⟩
  | vanishes performs gone => exact ⟨gone, spares⟩
  | @branches _ _ _ _ instruction _ result _ performs remains =>
    have followed := follow_nested (performs.nested nested) (instruction.target result)
    exact ⟨(land_leaves remains _ (followed.mono depth)).own, spares⟩
  | faults performs remains => exact ⟨(fail_leaves remains nested depth _ _ _).own, spares⟩
  | @yields _ _ frame callers _ action progress context performs remains =>
    let top : StackFrame := { context.frame with pending := some progress }
    obtain ⟨thread, found⟩ := Table.contains_iff.mp remains
    let suspended : Thread := { thread with temps := context.temps, frames := top :: callers }
    have stacked : suspended.Nested library :=
      ⟨(performs.nested nested).replace rfl rfl rfl, depth⟩
    have operand : top.operand? library = some (.primitive action) :=
      StackFrame.operand?_eq performs.still performs.decoded
    have waits : suspended.Waits library :=
      ⟨top, progress, action, rfl, rfl, operand, performs.waits rfl⟩
    exact ⟨⟨suspended, get?_putThread found _ _, stacked.parked waits⟩, spares⟩

/-- **An instruction leaves nested frames** as long as the turn goes on. -/
theorem step_leaves {thread : Thread} (present : underway.state.threads.contains id = true)
    (nested : thread.Nested library) :
    Leaves library id underway (step library id thread underway) :=
  (step_outcome library id thread underway).leaves present nested

/-! ## Turns -/

theorem Turn.leaves {budget : UInt32} {count : Nat} {executed : List (Thread × Underway)}
    {outcome : TurnEnd × Underway} (turn : Turn library budget id count underway executed outcome)
    (nested : ∀ thread, underway.state.threads.get? id = some thread → thread.Nested library) :
    outcome.1.Leaves library (outcome.2.state.threads.get? id) := by
  induction turn with
  | absent gone => exact gone
  | @exhausted now present => exact get?_removeThread now.state id
  | @ends _ now after thread ending found stepped =>
    have left := step_leaves (Table.contains_of_get? found) (nested thread found)
    rw [stepped] at left
    exact left.own
  | @goesOn _ now after thread _ _ found stepped _ inductionHypothesis =>
    have left := step_leaves (Table.contains_of_get? found) (nested thread found)
    rw [stepped] at left
    obtain ⟨kept, held, goesOn⟩ := left.own
    refine inductionHypothesis fun later laterHeld => ?_
    rw [Option.some.inj (laterHeld.symm.trans held)]
    exact goesOn

/-- **A turn leaves its thread waiting, or takes it away**, and spares all others. -/
theorem runTurn_leaves (budget : UInt32)
    (nested : ∀ thread, underway.state.threads.get? id = some thread → thread.Nested library) :
    (runTurn library budget id underway).1.Leaves library
        ((runTurn library budget id underway).2.state.threads.get? id) ∧
      ThreadTable.Spares id underway.state.threads
        (runTurn library budget id underway).2.state.threads :=
  ⟨(turn_executions library budget id budget.toNat underway).leaves nested,
    spares_runTurn budget id underway⟩

end Underway
end Lockstep
