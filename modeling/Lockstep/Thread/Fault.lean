import Lockstep.Behavior
import Lockstep.Primitive.Fault

/-!
# Faults of threads

Why a thread was stopped, or would have been if no frame had caught it.
-/

set_option autoImplicit false

namespace Lockstep

/-- Where in a behavior a fault arose. -/
structure FaultPlace where
  behavior : UInt16
  pc : UInt8
  deriving DecidableEq, Inhabited

/-- Why a thread failed. -/
inductive ThreadFault where
  /-- An operand cannot be decoded. -/
  | malformedOperand (place : FaultPlace) (cause : OperandError)
  /-- No primitive has the opcode, and no behavior that is loaded. -/
  | unknownPrimitive (place : FaultPlace) (opcode : UInt16)
  | missingBehavior (behavior : UInt16)
  | budgetExceeded (budget : UInt32)
  /-- A target leads past the end of its behavior. -/
  | branchOutOfRange (place : FaultPlace) (target : UInt8)
  | stackOverflow (place : FaultPlace)
  | primitive (place : FaultPlace) (kind : PrimitiveKind) (fault : PrimitiveFault)
  /-- The error target was taken. -/
  | raised (place : FaultPlace)
  deriving DecidableEq, Inhabited

/-- The text of a place. -/
def FaultPlace.text (place : FaultPlace) : String :=
  "behavior " ++ codeNumeral place.behavior ++ " pc " ++ toString place.pc.toNat ++ ": "

namespace ThreadFault

/-- The name of a fault. -/
def label : ThreadFault → String
  | .malformedOperand .. => "malformed_operand"
  | .unknownPrimitive .. => "unknown_primitive"
  | .missingBehavior _ => "missing_behavior"
  | .budgetExceeded _ => "budget_exceeded"
  | .branchOutOfRange .. => "branch_out_of_range"
  | .stackOverflow _ => "stack_overflow"
  | .primitive .. => "primitive_fault"
  | .raised _ => "raised"

/-- The text of a fault. -/
def message : ThreadFault → String
  | .malformedOperand place cause => place.text ++ "malformed operand (" ++ cause.message ++ ")"
  | .unknownPrimitive place opcode => place.text ++ "unknown primitive " ++ codeNumeral opcode
  | .missingBehavior behavior => "behavior " ++ codeNumeral behavior ++ " is not loaded"
  | .budgetExceeded budget => "instruction budget of " ++ toString budget.toNat ++ " exhausted"
  | .branchOutOfRange place target =>
    place.text ++ "branch to " ++ toString target.toNat ++ " is out of range"
  | .stackOverflow place => place.text ++ "call depth limit reached"
  | .primitive place kind fault => place.text ++ kind.name ++ " failed: " ++ fault.message
  | .raised place => place.text ++ "error exit"

end ThreadFault
end Lockstep
