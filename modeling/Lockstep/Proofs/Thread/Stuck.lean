import Lockstep.Proofs.Behavior.Checked
import Lockstep.Proofs.Thread.Without

/-!
# Threads that are stuck

A frame is stuck when it cannot execute its instruction and that is not caught
(`StackFrame.Stuck`): its behavior is not loaded, it is past the end of its behavior, nothing has
its opcode, its operand cannot be decoded, or it calls a behavior that is not loaded. Of these only
the second and the fourth can be caught, and only for a frame that another one has called.

The turn of a stuck thread fails at its first instruction (`Underway.runTurn_stuck`). It draws no
random number, tells nobody anything, and leaves nothing but a note.
-/

set_option autoImplicit false

namespace Lockstep

/-- A fault of a frame ends its thread: it catches no errors, or no frame has called it. -/
def StackFrame.Uncaught (callers : List StackFrame) (frame : StackFrame) : Prop :=
  frame.catchErrors = false ∨ callers = []

/-- A frame cannot execute its instruction, and the fault ends its thread. -/
inductive StackFrame.Stuck (library : Library) (callers : List StackFrame) (frame : StackFrame) :
    ThreadFault → Prop where
  | missingBehavior : library.contains frame.behavior = false →
      Stuck library callers frame (.missingBehavior frame.behavior)
  | pastEnd {behavior : Behavior} : library.get? frame.behavior = some behavior →
      behavior.instructions.length ≤ frame.pc.toNat → frame.Uncaught callers →
      Stuck library callers frame (.branchOutOfRange frame.place frame.pc)
  | unknownOpcode {instruction : Instruction} {opcode : UInt16} :
      library.instruction? frame.behavior frame.pc = some instruction →
      instruction.decodeOperand = .error (.unknownPrimitive opcode) →
      Stuck library callers frame (.unknownPrimitive frame.place opcode)
  | malformedOperand {instruction : Instruction} {cause : OperandError} :
      library.instruction? frame.behavior frame.pc = some instruction →
      instruction.decodeOperand = .error cause → (∀ opcode, cause ≠ .unknownPrimitive opcode) →
      frame.Uncaught callers →
      Stuck library callers frame (.malformedOperand frame.place cause)
  | missingCallee {instruction : Instruction} {request : Call} :
      library.instruction? frame.behavior frame.pc = some instruction →
      instruction.decodeOperand = .ok (.call request) →
      library.contains request.behavior = false →
      Stuck library callers frame (.unknownPrimitive frame.place request.behavior)

/-- The innermost frame of a thread is stuck. -/
def Thread.Stuck (library : Library) (thread : Thread) (fault : ThreadFault) : Prop :=
  ∃ frame callers, thread.frames = frame :: callers ∧ frame.Stuck library callers fault

variable {library : Library}

/-- A fault that is not caught leaves all frames at once. -/
theorem unwind_uncaught {frame : StackFrame} {callers : List StackFrame}
    (uncaught : frame.Uncaught callers) (fault : ThreadFault) :
    unwind library frame.catchErrors callers (.failed fault) = ⟨[], .aborted fault⟩ := by
  cases callers with
  | nil => rfl
  | cons caller rest =>
    have catchless := uncaught.resolve_right (List.cons_ne_nil _ _)
    rw [unwind, catchless]
    rfl

namespace Underway

variable {id : ThreadId} {thread : Thread} {fault : ThreadFault}

/-- **A stuck thread fails at once.** -/
theorem step_stuck (stuck : thread.Stuck library fault) (underway : Underway) :
    step library id thread underway = underway.abort id fault := by
  obtain ⟨frame, callers, frames, stuck⟩ := stuck
  rw [step, frames]
  dsimp only
  rw [execute]
  dsimp only
  cases stuck with
  | missingBehavior absent =>
    rw [absent]
    rfl
  | pastEnd held past uncaught =>
    have none : library.instruction? frame.behavior frame.pc = none := by
      rw [Library.instruction?, held]
      exact List.getElem?_eq_none past
    rw [Library.contains_iff.mpr ⟨_, held⟩, none]
    exact congrArg (land underway id thread.temps) (unwind_uncaught uncaught _)
  | unknownOpcode found decoded =>
    rw [Library.contains_of_instruction? found, found]
    dsimp only
    rw [decoded]
    rfl
  | @malformedOperand instruction cause found decoded other uncaught =>
    rw [Library.contains_of_instruction? found, found]
    dsimp only
    rw [decoded]
    cases cause with
    | unknownPrimitive opcode => exact absurd rfl (other opcode)
    | _ => exact congrArg (land underway id thread.temps) (unwind_uncaught uncaught _)
  | missingCallee found decoded absent =>
    rw [Library.contains_of_instruction? found, found]
    dsimp only
    rw [decoded]
    dsimp only
    rw [call, absent]
    rfl

/-- The turn of a stuck thread is one instruction, in which it fails. -/
theorem runTurn_stuck {budget : UInt32} (positive : 0 < budget.toNat) {underway : Underway}
    (found : underway.state.threads.get? id = some thread) (stuck : thread.Stuck library fault) :
    runTurn library budget id underway = (.faulted fault, (underway.abort id fault).2) := by
  obtain ⟨count, more⟩ := Nat.exists_eq_succ_of_ne_zero (Nat.ne_of_gt positive)
  rw [runTurn, more, runInstructions, found]
  dsimp only
  rw [step_stuck stuck]
  rfl

end Underway
end Lockstep
