import Lockstep.Proofs.Primitive.Edited
import Lockstep.Proofs.Primitive.Frame
import Lockstep.Proofs.Table.Keys

/-!
# Outcomes of instructions

There are eight ways in which an instruction of a thread can end (`Underway.Outcome`), and it ends
in no other way (`Underway.step_outcome`), whatever the thread is and whatever is under way. The
thread has no frames and completes. Its innermost frame refuses the instruction, which nothing can
catch, or fails before anything was done, which may be caught. It calls a behavior. Or it carries a
primitive out, and the removals that this has asked for: then the thread may have vanished, and if
it is still there, it goes to a target, fails, or gives way.

What every instruction keeps is proved by cases on its outcome. Nothing else about instructions has
to be unfolded for that.
-/

set_option autoImplicit false

namespace Lockstep

/-! ## Instructions that are not executed -/

/-- The frame cannot execute its instruction, and the thread ends, whatever its frames catch. -/
inductive StackFrame.Refuses (library : Library) (frame : StackFrame) : ThreadFault → Prop where
  | missingBehavior : library.contains frame.behavior = false →
      Refuses library frame (.missingBehavior frame.behavior)
  | unknownOpcode {instruction : Instruction} {opcode : UInt16} :
      library.instruction? frame.behavior frame.pc = some instruction →
      instruction.decodeOperand = .error (.unknownPrimitive opcode) →
      Refuses library frame (.unknownPrimitive frame.place opcode)
  | missingCallee {instruction : Instruction} {request : Call} :
      library.instruction? frame.behavior frame.pc = some instruction →
      instruction.decodeOperand = .ok (.call request) →
      library.contains request.behavior = false →
      Refuses library frame (.unknownPrimitive frame.place request.behavior)

/-- The frame cannot execute its instruction, and is left with a fault. -/
inductive StackFrame.Fails (library : Library) (callers : List StackFrame) (frame : StackFrame) :
    ThreadFault → Prop where
  | pastEnd : library.contains frame.behavior = true →
      library.instruction? frame.behavior frame.pc = none →
      Fails library callers frame (.branchOutOfRange frame.place frame.pc)
  | malformedOperand {instruction : Instruction} {cause : OperandError} :
      library.instruction? frame.behavior frame.pc = some instruction →
      instruction.decodeOperand = .error cause → (∀ opcode, cause ≠ .unknownPrimitive opcode) →
      Fails library callers frame (.malformedOperand frame.place cause)
  | stackOverflow {instruction : Instruction} {request : Call} :
      library.instruction? frame.behavior frame.pc = some instruction →
      instruction.decodeOperand = .ok (.call request) →
      library.contains request.behavior = true → maxStackDepth ≤ callers.length + 1 →
      Fails library callers frame (.stackOverflow frame.place)

/-! ## Primitives that are carried out -/

/-- The frame with which a behavior begins that a frame calls. -/
def StackFrame.callee (frame : StackFrame) (request : Call) : StackFrame :=
  { StackFrame.new request.behavior frame.caller frame.stackObject request.args with
    catchErrors := request.flags.catchesErrors }

/-- The point of a tick at which the removals that were asked for have taken place. -/
def Context.settled (context : Context) (state : State) : Underway :=
  context.removals.foldl Underway.remove (context.within state)

namespace Underway

/-- What a thread is about to execute. -/
def Fetched.top (temps : Vector Int16 8) (frame : StackFrame) (callers : List StackFrame) :
    Fetched :=
  ⟨{ frame with pending := none }, callers, temps, frame.pending⟩

/-- The innermost frame is at a primitive, which comes to this in its context. -/
structure Performs (library : Library) (id : ThreadId) (before : Underway) (temps : Vector Int16 8)
    (frame : StackFrame) (callers : List StackFrame) (instruction : Instruction)
    (action : Primitive) (exit : Exit) (context : Context) : Prop where
  found : library.instruction? frame.behavior frame.pc = some instruction
  decoded : instruction.decodeOperand = .ok (.primitive action)
  ran : action.run frame.pending ((Fetched.top temps frame callers).context id before) =
    (exit, context)

/-- What an instruction comes to. -/
inductive Outcome (library : Library) (id : ThreadId) (before : Underway) :
    Thread → Flow × Underway → Prop where
  /-- There is no frame. -/
  | completes (own : ThreadId) (temps : Vector Int16 8) :
      Outcome library id before ⟨own, temps, []⟩ (before.complete id true)
  /-- The thread ends at once. -/
  | refuses {own : ThreadId} {temps : Vector Int16 8} {frame : StackFrame}
      {callers : List StackFrame}
      {fault : ThreadFault} : frame.Refuses library fault →
      Outcome library id before ⟨own, temps, frame :: callers⟩ (before.abort id fault)
  /-- The innermost frame is left before anything was done. -/
  | fails {own : ThreadId} {temps : Vector Int16 8} {frame : StackFrame}
      {callers : List StackFrame}
      {fault : ThreadFault} : frame.Fails library callers fault →
      Outcome library id before ⟨own, temps, frame :: callers⟩
        (before.land id temps (unwind library frame.catchErrors callers (.failed fault)))
  /-- A behavior is called. -/
  | calls {own : ThreadId} {temps : Vector Int16 8} {frame : StackFrame}
      {callers : List StackFrame}
      {instruction : Instruction} {request : Call} :
      library.instruction? frame.behavior frame.pc = some instruction →
      instruction.decodeOperand = .ok (.call request) →
      library.contains request.behavior = true → callers.length + 1 < maxStackDepth →
      Outcome library id before ⟨own, temps, frame :: callers⟩
        (before.land id temps
          ⟨[], .resumed (frame.callee request :: { frame with pending := none } :: callers)⟩)
  /-- A primitive has removed the thread together with its owner. -/
  | vanishes {own : ThreadId} {temps : Vector Int16 8} {frame : StackFrame}
      {callers : List StackFrame}
      {instruction : Instruction} {action : Primitive} {exit : Exit} {context : Context} :
      Performs library id before temps frame callers instruction action exit context →
      (context.settled before.state).state.threads.get? id = none →
      Outcome library id before ⟨own, temps, frame :: callers⟩
        (.done .removed, context.settled before.state)
  /-- A primitive has a result, which selects a target. -/
  | branches {own : ThreadId} {temps : Vector Int16 8} {frame : StackFrame}
      {callers : List StackFrame}
      {instruction : Instruction} {action : Primitive} {result : Bool} {context : Context} :
      Performs library id before temps frame callers instruction action (.branch result) context →
      (context.settled before.state).state.threads.contains id = true →
      Outcome library id before ⟨own, temps, frame :: callers⟩
        ((context.settled before.state).land id context.temps
          (context.frame.follow library callers (instruction.target result)))
  /-- A primitive has failed, and the innermost frame is left. -/
  | faults {own : ThreadId} {temps : Vector Int16 8} {frame : StackFrame}
      {callers : List StackFrame}
      {instruction : Instruction} {action : Primitive} {fault : PrimitiveFault}
      {context : Context} :
      Performs library id before temps frame callers instruction action (.fault fault) context →
      (context.settled before.state).state.threads.contains id = true →
      Outcome library id before ⟨own, temps, frame :: callers⟩
        ((context.settled before.state).land id context.temps
          (unwind library context.frame.catchErrors callers
            (.failed (.primitive context.frame.place action.kind fault))))
  /-- A primitive waits. -/
  | yields {own : ThreadId} {temps : Vector Int16 8} {frame : StackFrame}
      {callers : List StackFrame}
      {instruction : Instruction} {action : Primitive} {progress : UInt32} {context : Context} :
      Performs library id before temps frame callers instruction action (.yield progress)
        context →
      (context.settled before.state).state.threads.contains id = true →
      Outcome library id before ⟨own, temps, frame :: callers⟩
        (.done .yielded, (context.settled before.state).putThread id context.temps
          ({ context.frame with pending := some progress } :: callers))

variable {library : Library} {id own : ThreadId} {before : Underway} {temps : Vector Int16 8}
  {frame : StackFrame} {callers : List StackFrame} {instruction : Instruction}

/-! ## What is known of a primitive -/

namespace Performs

variable {action : Primitive} {exit : Exit} {context : Context}
  (performs : Performs library id before temps frame callers instruction action exit context)

include performs

/-- The frame is still in the same call. -/
theorem sameCall : StackFrame.SameCall { frame with pending := none } context.frame := by
  have same := @Primitive.run_sameCall ((Fetched.top temps frame callers).context id before)
    action frame.pending
  rw [performs.ran] at same
  exact same

/-- The frame is still at the same place. -/
theorem place : context.frame.place = frame.place := by
  obtain ⟨locals, params, stackObject, same⟩ := performs.sameCall
  rw [same]
  rfl

/-- The frame is still at the instruction that was performed. -/
theorem still : library.instruction? context.frame.behavior context.frame.pc =
    some instruction := by
  obtain ⟨locals, params, stackObject, same⟩ := performs.sameCall
  rw [same]
  exact performs.found

/-- The stack object is the one it was, or there is none, or it is alive. -/
theorem chooses : ((Fetched.top temps frame callers).context id before).Chooses
    context.frame.stackObject := by
  have chosen := @Primitive.run_chooses ((Fetched.top temps frame callers).context id before)
    action frame.pending
  rw [performs.ran] at chosen
  exact chosen

/-- What gives way is sleeping or animating. -/
theorem waits {progress : UInt32} (yields : exit = .yield progress) : action.Waits := by
  subst yields
  exact Primitive.waits_of_yield (congrArg Prod.fst performs.ran)

/-- The thread goes on, if it is still there after the removals. -/
theorem perform_eq :
    perform library id (.top temps frame callers) instruction action before =
      if (context.settled before.state).state.threads.contains id then
        finish library id instruction action.kind context.frame callers context.temps exit
          (context.settled before.state)
      else (.done .removed, context.settled before.state) := by
  have ran : action.run (Fetched.top temps frame callers).resumed
    ((Fetched.top temps frame callers).context id before) = (exit, context) := performs.ran
  rw [Underway.perform_eq, ran]
  rfl

end Performs

/-! ## All outcomes -/

theorem call_outcome {request : Call}
    (found : library.instruction? frame.behavior frame.pc = some instruction)
    (decoded : instruction.decodeOperand = .ok (.call request)) :
    Outcome library id before ⟨own, temps, frame :: callers⟩
      (call library id (.top temps frame callers) request before) := by
  rw [call]
  cases loaded : library.contains request.behavior with
  | false => exact .refuses (.missingCallee found decoded loaded)
  | true =>
    simp only [Bool.not_true, Bool.false_eq_true, if_false]
    by_cases deep : maxStackDepth ≤ callers.length + 1
    · exact (if_pos deep).symm ▸ .fails (.stackOverflow found decoded loaded deep)
    · exact (if_neg deep).symm ▸ .calls found decoded loaded (Nat.not_le.mp deep)

theorem perform_outcome {action : Primitive}
    (found : library.instruction? frame.behavior frame.pc = some instruction)
    (decoded : instruction.decodeOperand = .ok (.primitive action)) :
    Outcome library id before ⟨own, temps, frame :: callers⟩
      (perform library id (.top temps frame callers) instruction action before) := by
  rcases ran : action.run frame.pending ((Fetched.top temps frame callers).context id before) with
    ⟨exit, context⟩
  have performs : Performs library id before temps frame callers instruction action exit context :=
    ⟨found, decoded, ran⟩
  rw [performs.perform_eq]
  by_cases remains : (context.settled before.state).state.threads.contains id = true
  · rw [if_pos remains]
    cases exit with
    | branch result => exact .branches performs remains
    | fault fault => exact .faults performs remains
    | yield progress => exact .yields performs remains
  · rw [if_neg remains]
    exact .vanishes performs (Table.get?_of_not_contains remains)

/-- **An instruction ends in no other way.** -/
theorem step_outcome (library : Library) (id : ThreadId) (thread : Thread) (underway : Underway) :
    Outcome library id underway thread (step library id thread underway) := by
  obtain ⟨own, temps, frames⟩ := thread
  cases frames with
  | nil => exact .completes own temps
  | cons frame callers =>
    rw [step]
    dsimp only
    rw [execute]
    dsimp only
    cases loaded : library.contains frame.behavior with
    | false => exact .refuses (.missingBehavior loaded)
    | true =>
      simp only [Bool.not_true, Bool.false_eq_true, if_false]
      cases found : library.instruction? frame.behavior frame.pc with
      | none => exact .fails (.pastEnd loaded found)
      | some instruction =>
        dsimp only
        cases decoded : instruction.decodeOperand with
        | error cause =>
          cases cause with
          | unknownPrimitive opcode => exact .refuses (.unknownOpcode found decoded)
          | _ => exact .fails (.malformedOperand found decoded nofun)
        | ok operand =>
          cases operand with
          | call request => exact call_outcome found decoded
          | primitive action => exact perform_outcome found decoded

end Underway
end Lockstep
