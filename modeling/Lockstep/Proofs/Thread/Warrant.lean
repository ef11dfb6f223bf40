import Lockstep.Proofs.Behavior.Checked
import Lockstep.Thread.Unwind

/-!
# Faults and their warrants

A fault is warranted when what stands at its place accounts for it (`ThreadFault.Warranted`): a call
of a behavior that is not loaded, a primitive that fails in its own way, a target that is an error,
or a behavior without instructions. No operand that cannot be decoded, no behavior that is missing
and no operand for another primitive warrants a fault: with checked behaviors there are none.

What keeps faults warranted is that every frame is placed (`StackFrame.Placed`): its behavior is
loaded, and it is at one of the instructions if there are any. Leaving frames keeps those that are
left placed, and neither catches nor ends in a fault without a warrant (`unwind_warranted`).
-/

set_option autoImplicit false

namespace Lockstep

/-! ## Warrants -/

/-- The instruction at a place has an operand. -/
def FaultPlace.Holds (library : Library) (place : FaultPlace) (operand : Operand) : Prop :=
  ∃ instruction, library.instruction? place.behavior place.pc = some instruction ∧
    instruction.decodeOperand = .ok operand

/-- A fault that what stands at its place accounts for. -/
def ThreadFault.Warranted (library : Library) : ThreadFault → Prop
  | .malformedOperand .. => False
  | .missingBehavior _ => False
  | .unknownPrimitive place opcode =>
    ∃ request, place.Holds library (.call request) ∧ request.behavior = opcode ∧
      library.get? opcode = none
  | .branchOutOfRange place _ =>
    ∃ behavior, library.get? place.behavior = some behavior ∧ behavior.instructions = []
  | .stackOverflow place => ∃ request, place.Holds library (.call request)
  | .primitive place kind fault =>
    (∃ action, place.Holds library (.primitive action) ∧ action.kind = kind) ∧
      ∀ expected, fault ≠ .operandMismatch expected
  | .raised place =>
    ∃ instruction result, library.instruction? place.behavior place.pc = some instruction ∧
      instruction.target result = targetError
  | .budgetExceeded _ => True

/-! ## Placed frames -/

/-- The behavior of a frame is loaded, and the frame is at one of its instructions if it has any. -/
def StackFrame.Placed (library : Library) (frame : StackFrame) : Prop :=
  ∃ behavior, library.get? frame.behavior = some behavior ∧
    (frame.pc.toNat < behavior.instructions.length ∨ behavior.instructions = [])

variable {library : Library} {frame : StackFrame} {callers : List StackFrame}
  {instruction : Instruction}

namespace StackFrame

theorem placed_of_instruction
    (found : library.instruction? frame.behavior frame.pc = some instruction) :
    frame.Placed library := by
  obtain ⟨behavior, loaded, listed⟩ := Library.instruction?_eq_some_iff.mp found
  exact ⟨behavior, loaded, .inl (List.getElem?_eq_some_iff.mp listed).1⟩

/-- A frame is placed at the start of a behavior that is loaded. -/
theorem placed_of_start {behavior : Behavior} (loaded : library.get? frame.behavior = some behavior)
    (start : frame.pc = 0) : frame.Placed library := by
  refine ⟨behavior, loaded, ?_⟩
  rw [start]
  exact (Nat.eq_zero_or_pos _).symm.imp_right List.length_eq_zero_iff.mp

/-- A placed frame that is at no instruction is in a behavior without instructions. -/
theorem Placed.empty (placed : frame.Placed library)
    (absent : library.instruction? frame.behavior frame.pc = none) :
    ∃ behavior, library.get? frame.behavior = some behavior ∧ behavior.instructions = [] := by
  obtain ⟨behavior, loaded, inside | empty⟩ := placed
  · rw [Library.instruction?, loaded, Option.bind_some, List.getElem?_eq_none_iff] at absent
    exact absurd inside (Nat.not_lt.mpr absent)
  · exact ⟨behavior, loaded, empty⟩

end StackFrame

/-! ## Leaving frames -/

/-- A frame is left with a result or a warranted fault. -/
def Resolution.Warranted (library : Library) : Resolution → Prop
  | .returned _ => True
  | .failed fault => fault.Warranted library

/-- A frame goes on where it is placed, or is left with a result or a warranted fault. -/
def Move.Warranted (library : Library) (frame : StackFrame) : Move → Prop
  | .jump index => (frame.jump index).Placed library
  | .leave resolution => resolution.Warranted library

/-- A thread goes on with placed frames, or has returned, or has failed with a warranted fault. -/
def Landing.Warranted (library : Library) : Landing → Prop
  | .resumed frames => ∀ frame ∈ frames, frame.Placed library
  | .completed _ => True
  | .aborted fault => fault.Warranted library

/-- All faults that are caught or not caught when frames are left are warranted. -/
structure Unwinding.Warranted (library : Library) (unwinding : Unwinding) : Prop where
  caught : ∀ fault ∈ unwinding.caught, fault.Warranted library
  landing : unwinding.landing.Warranted library

/-- There are three targets that return. -/
theorem returns_of_le {target : UInt8} (returns : targetError ≤ target) :
    target = targetError ∨ target = targetTrue ∨ target = targetFalse := by
  have least : 253 ≤ target.toNat := returns
  have most : target.toNat < 256 := target.toNat_lt
  simp only [← UInt8.toNat_inj]
  show target.toNat = 253 ∨ target.toNat = 254 ∨ target.toNat = 255
  omega

theorem aim_warranted (checked : library.Checked)
    (found : library.instruction? frame.behavior frame.pc = some instruction) (result : Bool) :
    (frame.aim library (instruction.target result)).Warranted library frame := by
  rw [StackFrame.aim]
  by_cases returnsTrue : instruction.target result = targetTrue
  · rw [if_pos returnsTrue]
    exact trivial
  rw [if_neg returnsTrue]
  by_cases returnsFalse : instruction.target result = targetFalse
  · rw [if_pos returnsFalse]
    exact trivial
  rw [if_neg returnsFalse]
  by_cases raises : instruction.target result = targetError
  · rw [if_pos raises]
    exact ⟨instruction, result, found, raises⟩
  rw [if_neg raises]
  rcases checked.leads found result with returns | ⟨next, listed⟩
  · rcases returns_of_le returns with error | true | false
    · exact absurd error raises
    · exact absurd true returnsTrue
    · exact absurd false returnsFalse
  · rw [if_pos (Option.isSome_of_eq_some listed)]
    exact StackFrame.placed_of_instruction listed

theorem answer_warranted (checked : library.Checked) (placed : frame.Placed library)
    (result : Bool) : (frame.answer library result).Warranted library frame := by
  rw [StackFrame.answer]
  cases found : library.instruction? frame.behavior frame.pc with
  | some instruction => exact aim_warranted checked found result
  | none => exact placed.empty found

/-- **Leaving frames leaves placed frames**, and catches no fault without a warrant. -/
theorem unwind_warranted (checked : library.Checked)
    (placed : ∀ frame ∈ callers, frame.Placed library) (catches : Bool) {resolution : Resolution}
    (warranted : resolution.Warranted library) :
    (unwind library catches callers resolution).Warranted library := by
  induction callers generalizing catches resolution with
  | nil =>
    cases resolution with
    | returned result => exact ⟨by simp [unwind], trivial⟩
    | failed fault => exact ⟨by simp [unwind], warranted⟩
  | cons frame callers inductionHypothesis =>
    obtain ⟨here, below⟩ := List.forall_mem_cons.mp placed
    have resumed {index : UInt8} (jumped : (frame.jump index).Placed library) :
        (Landing.resumed (frame.jump index :: callers)).Warranted library :=
      List.forall_mem_cons.mpr ⟨jumped, below⟩
    cases resolution with
    | returned result =>
      have answered := answer_warranted checked here result
      rw [unwind]
      cases move : frame.answer library result with
      | jump index =>
        rw [move] at answered
        exact ⟨by simp, resumed answered⟩
      | leave resolution =>
        rw [move] at answered
        exact inductionHypothesis below _ answered
    | failed fault =>
      have answered := answer_warranted checked here false
      cases catches with
      | false => exact ⟨by simp [unwind], warranted⟩
      | true =>
        rw [unwind, if_pos rfl]
        cases move : frame.answer library false with
        | jump index =>
          rw [move] at answered
          exact ⟨List.forall_mem_singleton.mpr warranted, resumed answered⟩
        | leave resolution =>
          rw [move] at answered
          obtain ⟨caught, landing⟩ := inductionHypothesis below frame.catchErrors answered
          exact ⟨List.forall_mem_cons.mpr ⟨warranted, caught⟩, landing⟩

/-- The innermost frame goes on at a target of its instruction, or is left. -/
theorem follow_warranted (checked : library.Checked)
    (found : library.instruction? frame.behavior frame.pc = some instruction)
    (placed : ∀ frame ∈ callers, frame.Placed library) (result : Bool) :
    (frame.follow library callers (instruction.target result)).Warranted library := by
  have aimed := aim_warranted checked found result
  rw [StackFrame.follow]
  cases move : frame.aim library (instruction.target result) with
  | jump index =>
    rw [move] at aimed
    exact ⟨by simp, List.forall_mem_cons.mpr ⟨aimed, placed⟩⟩
  | leave resolution =>
    rw [move] at aimed
    exact unwind_warranted checked placed _ aimed

end Lockstep
