import Lockstep.Proofs.Thread.Exits
import Lockstep.Proofs.Thread.Outcomes

/-!
# Faults name places

All faults but two name the place where they arose (`ThreadFault.place?`). When a thread fails in an
instruction, that is the place of one of the frames that it had (`Underway.step_faulted`): of the
innermost one, or, when frames were left, of one that answered with the fault. The only other way to
fail in an instruction is that the behavior of the innermost frame is not there
(`Underway.step_missing`). No instruction fails because of the budget of its turn
(`Underway.step_inBudget`).
-/

set_option autoImplicit false

namespace Lockstep

/-- The place that a fault names. A behavior that is missing has no places, and a turn is stopped
for its budget at whatever place it is. -/
def ThreadFault.place? : ThreadFault → Option FaultPlace
  | .missingBehavior _ => none
  | .budgetExceeded _ => none
  | .malformedOperand place _ => some place
  | .unknownPrimitive place _ => some place
  | .branchOutOfRange place _ => some place
  | .stackOverflow place => some place
  | .primitive place _ _ => some place
  | .raised place => some place

variable {library : Library} {fault : ThreadFault} {frame : StackFrame}
  {callers : List StackFrame}

/-! ## Frames -/

namespace StackFrame

/-- A target that makes a frame fail names the place of the frame. -/
theorem place_of_aim {target : UInt8}
    (leaves : frame.aim library target = .leave (.failed fault)) :
    fault.place? = some frame.place := by
  rw [aim] at leaves
  split at leaves
  · cases leaves
  · split at leaves
    · cases leaves
    · split at leaves
      · cases leaves
        rfl
      · split at leaves
        · cases leaves
        · cases leaves
          rfl

theorem place_of_answer {result : Bool}
    (leaves : frame.answer library result = .leave (.failed fault)) :
    fault.place? = some frame.place := by
  rw [answer] at leaves
  split at leaves
  · exact place_of_aim leaves
  · cases leaves
    rfl

theorem Fails.place (failure : frame.Fails library callers fault) :
    fault.place? = some frame.place := by
  cases failure with
  | pastEnd => rfl
  | malformedOperand => rfl
  | stackOverflow => rfl

/-- A fault with which the thread ends when frames are left names the place of one of them. -/
theorem place_of_unwind {catches : Bool} {resolution : Resolution}
    (first : ∀ fault, resolution = .failed fault → fault.place? = some frame.place)
    (aborted : (unwind library catches callers resolution).landing = .aborted fault) :
    ∃ other ∈ frame :: callers, fault.place? = some other.place := by
  rcases unwind_aborted aborted with here | ⟨other, member, result, answered⟩
  · exact ⟨frame, List.mem_cons_self, first fault here⟩
  · exact ⟨other, List.mem_cons_of_mem frame member, place_of_answer answered⟩

theorem place_of_follow {target : UInt8}
    (aborted : (frame.follow library callers target).landing = .aborted fault) :
    ∃ other ∈ frame :: callers, fault.place? = some other.place := by
  rw [follow] at aborted
  cases leaves : frame.aim library target with
  | jump index =>
    rw [leaves] at aborted
    cases aborted
  | leave resolution =>
    rw [leaves] at aborted
    refine place_of_unwind (fun first here => ?_) aborted
    subst here
    exact place_of_aim leaves

end StackFrame

/-! ## Instructions -/

namespace Underway

variable {underway before : Underway} {id : ThreadId} {thread : Thread} {temps : Vector Int16 8}
  {after : Flow × Underway}

theorem landing_of_faulted {unwinding : Unwinding}
    (failed : (underway.land id temps unwinding).1 = .done (.faulted fault)) :
    unwinding.landing = .aborted fault := by
  obtain ⟨caught, landing⟩ := unwinding
  rw [land] at failed
  cases landing with
  | resumed frames => cases failed
  | completed result => cases failed
  | aborted other => exact congrArg _ (TurnEnd.faulted.inj (Flow.done.inj failed))

theorem Outcome.faulted (outcome : Outcome library id before thread after)
    (failed : after.1 = .done (.faulted fault)) :
    (∃ frame callers, thread.frames = frame :: callers ∧
        fault = .missingBehavior frame.behavior ∧ library.contains frame.behavior = false) ∨
      ∃ frame ∈ thread.frames, fault.place? = some frame.place := by
  cases outcome with
  | completes => cases failed
  | @refuses _ _ frame callers _ refusal =>
    cases failed
    cases refusal with
    | missingBehavior absent => exact .inl ⟨frame, callers, rfl, rfl, absent⟩
    | unknownOpcode => exact .inr ⟨frame, List.mem_cons_self, rfl⟩
    | missingCallee => exact .inr ⟨frame, List.mem_cons_self, rfl⟩
  | fails failure =>
    refine .inr (StackFrame.place_of_unwind (fun first here => ?_) (landing_of_faulted failed))
    exact Resolution.failed.inj here ▸ failure.place
  | calls => cases failed
  | vanishes => cases failed
  | @branches _ _ frame callers _ _ _ context performs remains =>
    obtain ⟨other, member, named⟩ := StackFrame.place_of_follow (landing_of_faulted failed)
    rcases List.mem_cons.mp member with rfl | below
    · exact .inr ⟨frame, List.mem_cons_self, performs.place ▸ named⟩
    · exact .inr ⟨other, List.mem_cons_of_mem frame below, named⟩
  | faults performs remains =>
    refine .inr (StackFrame.place_of_unwind (fun first here => ?_) (landing_of_faulted failed))
    obtain rfl := Resolution.failed.inj here
    exact congrArg some performs.place
  | yields => cases failed

/-- **A thread that fails in an instruction fails at the place of one of its frames**, unless the
behavior of the innermost one is not there. -/
theorem step_faulted
    (failed : (step library id thread underway).1 = .done (.faulted fault)) :
    (∃ frame callers, thread.frames = frame :: callers ∧
        fault = .missingBehavior frame.behavior ∧ library.contains frame.behavior = false) ∨
      ∃ frame ∈ thread.frames, fault.place? = some frame.place :=
  (step_outcome library id thread underway).faulted failed

/-- **The behavior that is not there is that of the innermost frame.** -/
theorem step_missing {behavior : UInt16}
    (failed : (step library id thread underway).1 =
      .done (.faulted (.missingBehavior behavior))) :
    ∃ frame callers, thread.frames = frame :: callers ∧ frame.behavior = behavior ∧
      library.contains behavior = false := by
  rcases step_faulted failed with ⟨frame, callers, stack, same, absent⟩ | ⟨_, _, named⟩
  · obtain rfl := ThreadFault.missingBehavior.inj same
    exact ⟨frame, callers, stack, rfl, absent⟩
  · cases named

/-- **No instruction fails because of the budget.** -/
theorem step_inBudget {spent : UInt32} (thread : Thread) :
    (step library id thread underway).1 ≠ .done (.faulted (.budgetExceeded spent)) := by
  intro failed
  rcases step_faulted failed with ⟨_, _, _, same, _⟩ | ⟨_, _, named⟩
  · cases same
  · cases named

end Underway
end Lockstep
