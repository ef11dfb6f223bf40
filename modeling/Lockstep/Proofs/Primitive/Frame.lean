import Lockstep.Proofs.Primitive.Outcomes

/-!
# Frames under primitives

A primitive works on the frame that is running, but it leaves alone what makes the frame a call: the
behavior, the place in it, the caller, and whether errors are caught (`Primitive.run_sameCall`). The
stack object that it chooses is alive (`Primitive.run_chooses`). Only sleeping and animating give
way (`Primitive.waits_of_yield`).
-/

set_option autoImplicit false

namespace Lockstep

/-- Frames that differ only in their variables and in their stack object. -/
def StackFrame.SameCall (before after : StackFrame) : Prop :=
  ∃ locals params stackObject, after = { before with locals, params, stackObject }

theorem StackFrame.SameCall.refl (frame : StackFrame) : frame.SameCall frame := ⟨_, _, _, rfl⟩

/-- A primitive that gives way. -/
def Primitive.Waits : Primitive → Prop
  | .sleep _ => True
  | .animate .. => True
  | _ => False

namespace Context

variable {context : Context}

theorem sameCall_write {reference : VarRef} {value : Int16} {after : Context}
    (written : context.write reference value = .ok after) : context.frame.SameCall after.frame := by
  cases wrote_of_write written with
  | temps temps => exact .refl _
  | frame locals params chosen => exact ⟨_, _, _, rfl⟩
  | entity id place => exact .refl _

theorem chooses_write {reference : VarRef} {value : Int16} {after : Context}
    (written : context.write reference value = .ok after) :
    context.Chooses after.frame.stackObject := by
  cases wrote_of_write written with
  | temps temps => exact .inl rfl
  | frame locals params chosen => exact chosen
  | entity id place => exact .inl rfl

end Context

namespace Primitive

variable {context : Context} {action : Primitive}

/-- What a primitive comes to is in the same call. -/
theorem Outcome.sameCall {result : Exit × Context} (outcome : Outcome context action result) :
    context.frame.SameCall result.2.frame := by
  cases outcome with
  | stores written => exact Context.sameCall_write written
  | @draws _ _ _ random _ written =>
    exact @Context.sameCall_write { context with random } _ _ _ written
  | chooses => exact ⟨_, _, _, rfl⟩
  | _ => exact .refl _

/-- What a primitive comes to has the stack object of before, none, or a live one. -/
theorem Outcome.chosen {result : Exit × Context} (outcome : Outcome context action result) :
    context.Chooses result.2.frame.stackObject := by
  cases outcome with
  | stores written => exact Context.chooses_write written
  | @draws _ _ _ random _ written =>
    exact @Context.chooses_write { context with random } _ _ _ written
  | chooses chosen => exact chosen
  | _ => exact .inl rfl

/-- A primitive leaves its thread in the same call. -/
theorem run_sameCall (action : Primitive) (resumed : Option UInt32) :
    context.frame.SameCall (action.run resumed context).2.frame :=
  (run_outcome action resumed context).sameCall

/-- A primitive leaves the frame with its stack object, with none, or with a live one. -/
theorem run_chooses (action : Primitive) (resumed : Option UInt32) :
    context.Chooses (action.run resumed context).2.frame.stackObject :=
  (run_outcome action resumed context).chosen

/-- What gives way is sleeping or animating. -/
theorem waits_of_yield {resumed : Option UInt32} {progress : UInt32}
    (yielded : (action.run resumed context).1 = .yield progress) : action.Waits := by
  have outcome := run_outcome action resumed context
  generalize action.run resumed context = result at outcome yielded
  cases outcome with
  | sleeps => exact trivial
  | animates => exact trivial
  | _ => cases yielded

end Primitive
end Lockstep
