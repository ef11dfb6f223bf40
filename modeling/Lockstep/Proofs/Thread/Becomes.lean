import Lockstep.Proofs.Thread.Exits
import Lockstep.Proofs.Thread.Leaves

/-!
# What becomes of a thread

In one instruction a thread goes on in one of three ways (`Thread.Becomes`): its innermost frame
works on, it calls a behavior that is loaded, or it leaves frames, and the first one that is left
over goes on at a target of the instruction that it is at. In each of them the other frames stay as
they are. Nothing is said of the thread's own identity here. This needs nothing of the thread: its frames may be any frames, and its behaviors any that
the library has (`Underway.step_becomes`).
-/

set_option autoImplicit false

namespace Lockstep

/-- How a thread goes on after an instruction. -/
inductive Thread.Becomes (library : Library) : Thread → Thread → Prop where
  /-- The innermost frame works on, or gives way. -/
  | works {own kept : ThreadId} {temps : Vector Int16 8} {frame : StackFrame}
      {callers : List StackFrame}
      (later : Vector Int16 8) (pc : UInt8) (locals : Vector Int16 8) (params : Vector Int16 4)
      (stackObject : Option EntityId) (pending : Option UInt32) :
      Becomes library ⟨own, temps, frame :: callers⟩
        ⟨kept, later, { frame with pc, locals, params, stackObject, pending } :: callers⟩
  /-- The innermost frame calls a behavior. -/
  | calls {own kept : ThreadId} {temps : Vector Int16 8} {callee frame : StackFrame}
      {callers : List StackFrame} :
      library.contains callee.behavior = true →
      Becomes library ⟨own, temps, frame :: callers⟩
        ⟨kept, temps, callee :: { frame with pending := none } :: callers⟩
  /-- Some frames are left, and the next one goes on. -/
  | returns {own kept : ThreadId} {temps : Vector Int16 8} {left callers : List StackFrame}
      {frame : StackFrame} {instruction : Instruction} (later : Vector Int16 8) (result : Bool) :
      left ≠ [] → library.instruction? frame.behavior frame.pc = some instruction →
      Becomes library ⟨own, temps, left ++ frame :: callers⟩
        ⟨kept, later, frame.jump (instruction.target result) :: callers⟩

namespace Underway

variable {library : Library} {underway before : Underway} {id own : ThreadId}
  {temps : Vector Int16 8} {thread later : Thread} {after : Flow × Underway}

/-! ## Instructions -/

theorem get?_removeThread_ne_some (state : State) (id : ThreadId) (thread : Thread) :
    (state.removeThread id).threads.get? id ≠ some thread := by
  rw [get?_removeThread]
  exact (Option.some_ne_none thread).symm

theorem get?_of_putThread {frames : List StackFrame}
    (held : (underway.putThread id temps frames).state.threads.get? id = some later) :
    ∃ thread : Thread, later = { thread with temps, frames } := by
  obtain ⟨thread, _, same⟩ := Option.map_eq_some_iff.mp ((Table.get?_modify_self ..).symm.trans held)
  exact ⟨thread, same.symm⟩

/-- A thread goes on where it lands. -/
theorem get?_land {unwinding : Unwinding}
    (held : (underway.land id temps unwinding).2.state.threads.get? id = some later) :
    ∃ frames own, unwinding.landing = .resumed frames ∧ later = ⟨own, temps, frames⟩ := by
  obtain ⟨caught, landing⟩ := unwinding
  rw [land] at held
  cases landing with
  | resumed frames =>
    obtain ⟨thread, rfl⟩ := get?_of_putThread held
    exact ⟨frames, thread.id, rfl, rfl⟩
  | completed result => exact absurd held (get?_removeThread_ne_some underway.state id later)
  | aborted fault => exact absurd held (get?_removeThread_ne_some underway.state id later)

/-- A thread that leaves its innermost frame. -/
theorem unwind_becomes {frame : StackFrame} {callers : List StackFrame} {earlier : Vector Int16 8}
    {catches : Bool} {resolution : Resolution}
    (held : (underway.land id temps
      (unwind library catches callers resolution)).2.state.threads.get? id = some later) :
    Thread.Becomes library ⟨own, earlier, frame :: callers⟩ later := by
  obtain ⟨frames, kept, resumed, rfl⟩ := get?_land held
  obtain ⟨left, goingOn, rest, instruction, result, rfl, found, rfl⟩ := unwind_resumed resumed
  exact @Thread.Becomes.returns library own kept earlier (frame :: left) rest goingOn instruction
    temps result (List.cons_ne_nil _ _) found

/-- The frame that a primitive has worked on, at a target. -/
theorem follow_becomes {frame worked : StackFrame} {callers : List StackFrame}
    {earlier : Vector Int16 8} {target : UInt8}
    (same : StackFrame.SameCall { frame with pending := none } worked)
    (held : (underway.land id temps
      (worked.follow library callers target)).2.state.threads.get? id = some later) :
    Thread.Becomes library ⟨own, earlier, frame :: callers⟩ later := by
  obtain ⟨locals, params, stackObject, rfl⟩ := same
  rw [StackFrame.follow] at held
  split at held
  · obtain ⟨frames, kept, resumed, rfl⟩ := get?_land held
    obtain rfl := Landing.resumed.inj resumed
    exact .works temps _ locals params stackObject none
  · exact unwind_becomes held

theorem Outcome.becomes (outcome : Outcome library id before thread after)
    (held : after.2.state.threads.get? id = some later) : thread.Becomes library later := by
  cases outcome with
  | completes => exact absurd held (get?_removeThread_ne_some before.state id later)
  | refuses refusal => exact absurd held (get?_removeThread_ne_some before.state id later)
  | fails failure => exact unwind_becomes held
  | calls found decoded loaded shallow =>
    obtain ⟨frames, kept, resumed, rfl⟩ := get?_land held
    obtain rfl := Landing.resumed.inj resumed
    exact .calls loaded
  | vanishes performs gone => exact absurd (held.symm.trans gone) (Option.some_ne_none later)
  | branches performs remains => exact follow_becomes performs.sameCall held
  | faults performs remains => exact unwind_becomes held
  | @yields _ _ frame _ _ _ progress _ performs remains =>
    obtain ⟨thread, rfl⟩ := get?_of_putThread held
    obtain ⟨locals, params, stackObject, same⟩ := performs.sameCall
    rw [same]
    exact .works _ frame.pc locals params stackObject (some progress)

/-- **In an instruction a thread works on, calls a behavior that is loaded, or returns**, if it goes
on at all. -/
theorem step_becomes
    (held : (step library id thread underway).2.state.threads.get? id = some later) :
    thread.Becomes library later :=
  (step_outcome library id thread underway).becomes held

end Underway
end Lockstep
