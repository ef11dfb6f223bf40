import Lockstep.Behavior.Library
import Lockstep.Thread
import Lockstep.Thread.Fault

/-!
# Leaving frames

When a frame is left, its result selects a target of the calling instruction. That target may be
another return, so one instruction may leave many frames, but never more than there are.

A frame is left with a result or with a fault. A fault in a frame that catches errors counts as the
result false and is noted; in any other frame it ends the thread. `unwind` follows all this to
the end and says where the thread goes on, if it does, and which faults were caught on the way.
-/

set_option autoImplicit false

namespace Lockstep

/-- What a frame is left with. -/
inductive Resolution where
  | returned (result : Bool)
  | failed (fault : ThreadFault)
  deriving DecidableEq, Inhabited

/-- Where a thread is after frames have been left. -/
inductive Landing where
  /-- It goes on with these frames. -/
  | resumed (frames : List StackFrame)
  /-- The outermost frame has returned. -/
  | completed (result : Bool)
  /-- A fault was not caught. -/
  | aborted (fault : ThreadFault)
  deriving DecidableEq, Inhabited

/-- Where a thread is, and the faults that were caught on the way, first one first. -/
structure Unwinding where
  caught : List ThreadFault
  landing : Landing
  deriving DecidableEq, Inhabited

/-- What a target makes a frame do. -/
inductive Move where
  /-- Go on at an instruction of the same behavior. -/
  | jump (index : UInt8)
  /-- Leave the frame. -/
  | leave (resolution : Resolution)
  deriving DecidableEq, Inhabited

namespace StackFrame

/-- The place of the current instruction. -/
def place (frame : StackFrame) : FaultPlace := ⟨frame.behavior, frame.pc⟩

/-- What a target makes a frame do. -/
def aim (library : Library) (frame : StackFrame) (target : UInt8) : Move :=
  if target = targetTrue then .leave (.returned true)
  else if target = targetFalse then .leave (.returned false)
  else if target = targetError then .leave (.failed (.raised frame.place))
  else if (library.instruction? frame.behavior target).isSome then .jump target
  else .leave (.failed (.branchOutOfRange frame.place target))

/-- What the result of the behavior that a frame has called makes the frame do. -/
def answer (library : Library) (frame : StackFrame) (result : Bool) : Move :=
  match library.instruction? frame.behavior frame.pc with
  | some instruction => frame.aim library (instruction.target result)
  | none => .leave (.failed (.branchOutOfRange frame.place frame.pc))

/-- The frame at the start of an instruction. -/
def jump (frame : StackFrame) (index : UInt8) : StackFrame :=
  { frame with pc := index, pending := none }

end StackFrame

/-- Leave a frame, which may catch errors, and then as many of its callers as follows from that. -/
def unwind (library : Library) (catches : Bool) : List StackFrame → Resolution → Unwinding
  | [], .returned result => ⟨[], .completed result⟩
  | [], .failed fault => ⟨[], .aborted fault⟩
  | frame :: callers, .returned result =>
    match frame.answer library result with
    | .jump index => ⟨[], .resumed (frame.jump index :: callers)⟩
    | .leave resolution => unwind library frame.catchErrors callers resolution
  | frame :: callers, .failed fault =>
    if catches then
      match frame.answer library false with
      | .jump index => ⟨[fault], .resumed (frame.jump index :: callers)⟩
      | .leave resolution =>
        let rest := unwind library frame.catchErrors callers resolution
        ⟨fault :: rest.caught, rest.landing⟩
    else ⟨[], .aborted fault⟩

/-- Send the innermost frame of a stack to a target. -/
def StackFrame.follow (library : Library) (frame : StackFrame) (callers : List StackFrame)
    (target : UInt8) : Unwinding :=
  match frame.aim library target with
  | .jump index => ⟨[], .resumed (frame.jump index :: callers)⟩
  | .leave resolution => unwind library frame.catchErrors callers resolution

end Lockstep
