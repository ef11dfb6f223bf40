import Mathlib.Data.List.Chain
import Lockstep.Proofs.Primitive.Frame
import Lockstep.Proofs.Thread.Exits
import Lockstep.Thread.Turn

/-!
# Nested frames

The frames of a thread are nested: below each frame lies the one that called its behavior, still at
the call (`Nested`). All of them work for the same caller, and nothing is left to catch an error of
the outermost one. Leaving frames keeps those that are left nested (`unwind_nested`), whether they
are left by a result or by a fault, and never makes more of them.
-/

set_option autoImplicit false

namespace Lockstep

/-! ## Calls -/

/-- The operand of the instruction that a frame is at, if there is one that can be decoded. -/
def StackFrame.operand? (library : Library) (frame : StackFrame) : Option Operand :=
  (library.instruction? frame.behavior frame.pc).bind fun instruction =>
    instruction.decodeOperand.toOption

/-- A frame is at a call of the behavior of another frame, and not in the middle of it. The called
frame has the caller of the calling one, and catches errors if the call says so. -/
def StackFrame.Calls (library : Library) (callee frame : StackFrame) : Prop :=
  frame.pending = none ∧ callee.caller = frame.caller ∧
    ∃ request, frame.operand? library = some (.call request) ∧
      callee.behavior = request.behavior ∧ callee.catchErrors = request.flags.catchesErrors

theorem StackFrame.operand?_eq {library : Library} {frame : StackFrame}
    {instruction : Instruction} {operand : Operand}
    (fetched : library.instruction? frame.behavior frame.pc = some instruction)
    (decoded : instruction.decodeOperand = .ok operand) :
    frame.operand? library = some operand := by
  rw [operand?, fetched]
  show instruction.decodeOperand.toOption = some operand
  rw [decoded]
  rfl

/-- Frames of a thread, innermost first. The outermost one catches no errors, and each of the others
lies on the frame that called it. -/
inductive Nested (library : Library) : List StackFrame → Prop where
  | root {frame : StackFrame} : frame.catchErrors = false → Nested library [frame]
  | call {callee frame : StackFrame} {callers : List StackFrame} :
      callee.Calls library frame → Nested library (frame :: callers) →
        Nested library (callee :: frame :: callers)

/-! ## What nested frames have in common -/

namespace Nested

variable {library : Library} {frames callers : List StackFrame} {before after callee : StackFrame}

theorem length_pos (nested : Nested library frames) : 1 ≤ frames.length := by
  cases nested with
  | root catchless => exact Nat.le_refl _
  | call called below => exact Nat.succ_le_succ (Nat.zero_le _)

/-- Below a called frame the frames are nested, too. -/
theorem tail (nested : Nested library (callee :: before :: callers)) :
    Nested library (before :: callers) := by
  cases nested with
  | call called below => exact below

theorem of_append {left : List StackFrame} (nested : Nested library (left ++ before :: callers)) :
    Nested library (before :: callers) := by
  induction left with
  | nil => exact nested
  | cons callee left inductionHypothesis =>
    cases left with
    | nil => exact nested.tail
    | cons inner left => exact inductionHypothesis nested.tail

/-- All frames have the caller of the outermost one, which catches no errors. -/
theorem rooted (nested : Nested library frames) :
    ∃ root, frames.getLast? = some root ∧ root.catchErrors = false ∧
      ∀ frame ∈ frames, frame.caller = root.caller := by
  induction nested with
  | @root frame catchless =>
    refine ⟨frame, rfl, catchless, ?_⟩
    intro other member
    rw [List.mem_singleton.mp member]
  | @call callee frame callers called nested inductionHypothesis =>
    obtain ⟨root, last, catchless, same⟩ := inductionHypothesis
    refine ⟨root, ?_, catchless, ?_⟩
    · rw [List.getLast?_cons_cons]
      exact last
    · intro other member
      rcases List.mem_cons.mp member with rfl | member
      · rw [called.2.1]
        exact same frame List.mem_cons_self
      · exact same other member

/-- Each frame but the innermost is at a call of the behavior of the frame on top of it. -/
theorem calls (nested : Nested library frames) :
    frames.IsChain (StackFrame.Calls library) := by
  induction nested with
  | root catchless => exact .singleton _
  | call called nested inductionHypothesis => exact .cons_cons called inductionHypothesis

/-- What the innermost frame has come to is its own affair: neither its place nor its variables
matter to the frames below it. -/
theorem replace (nested : Nested library (before :: callers))
    (behavior : after.behavior = before.behavior) (caller : after.caller = before.caller)
    (catchErrors : after.catchErrors = before.catchErrors) :
    Nested library (after :: callers) := by
  cases nested with
  | root catchless => exact .root (catchErrors.trans catchless)
  | call called below =>
    obtain ⟨idle, sameCaller, request, atCall, called, caught⟩ := called
    exact .call ⟨idle, caller.trans sameCaller, request, atCall, behavior.trans called,
      catchErrors.trans caught⟩ below

theorem jump (nested : Nested library (before :: callers)) (index : UInt8) :
    Nested library (before.jump index :: callers) :=
  nested.replace rfl rfl rfl

theorem sameCall (nested : Nested library (before :: callers)) (same : before.SameCall after) :
    Nested library (after :: callers) := by
  obtain ⟨locals, params, stackObject, rfl⟩ := same
  exact nested.replace rfl rfl rfl

end Nested

/-- Frames that lie on those that called them, down to one that catches no errors, are nested. -/
theorem nested_of_calls {library : Library} {frames : List StackFrame} {root : StackFrame}
    (calls : frames.IsChain (StackFrame.Calls library)) (last : frames.getLast? = some root)
    (catchless : root.catchErrors = false) : Nested library frames := by
  induction calls with
  | nil => exact absurd last (by simp)
  | singleton frame =>
    obtain rfl : frame = root := Option.some.inj last
    exact .root catchless
  | cons_cons called _ inductionHypothesis =>
    rw [List.getLast?_cons_cons] at last
    exact .call called (inductionHypothesis last)

/-! ## Leaving frames -/

/-- If a thread goes on, then with nested frames, and with no more of them than this. -/
def Landing.Nested (library : Library) (most : Nat) : Landing → Prop
  | .resumed frames => Lockstep.Nested library frames ∧ frames.length ≤ most
  | .completed _ => True
  | .aborted _ => True

theorem Landing.Nested.mono {library : Library} {most more : Nat} {landing : Landing}
    (nested : landing.Nested library most) (bound : most ≤ more) :
    landing.Nested library more := by
  cases landing with
  | resumed frames => exact ⟨nested.1, Nat.le_trans nested.2 bound⟩
  | completed result => exact trivial
  | aborted fault => exact trivial

/-- **Leaving a frame leaves nested frames**, or none. -/
theorem unwind_nested {library : Library} {callee : StackFrame} {callers : List StackFrame}
    (nested : Nested library (callee :: callers)) (catches : Bool) (resolution : Resolution) :
    (unwind library catches callers resolution).landing.Nested library callers.length := by
  cases landed : (unwind library catches callers resolution).landing with
  | completed result => exact trivial
  | aborted fault => exact trivial
  | resumed frames =>
    obtain ⟨left, frame, rest, instruction, result, rfl, _, rfl⟩ := unwind_resumed landed
    have below := @Nested.of_append library rest frame (callee :: left) nested
    refine ⟨below.jump (instruction.target result), ?_⟩
    rw [List.length_append]
    exact Nat.le_add_left _ _

/-- Sending the innermost frame to a target leaves nested frames, or none. -/
theorem follow_nested {library : Library} {frame : StackFrame} {callers : List StackFrame}
    (nested : Nested library (frame :: callers)) (target : UInt8) :
    (frame.follow library callers target).landing.Nested library (frame :: callers).length := by
  rw [StackFrame.follow]
  cases frame.aim library target with
  | jump index => exact ⟨nested.jump index, Nat.le_refl _⟩
  | leave resolution => exact (unwind_nested nested frame.catchErrors _).mono (Nat.le_succ _)

end Lockstep
