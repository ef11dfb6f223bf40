import Lockstep.Operand.Data

/-!
# Faults of primitives

Why a primitive could not do what its operand asks for.
-/

set_option autoImplicit false

namespace Lockstep

/-- Why a primitive failed. -/
inductive PrimitiveFault where
  | divideByZero
  | slotOutOfRange (scope : VariableScope) (index : Int16)
  | readOnly (scope : VariableScope)
  | noStackObject
  | noCaller
  | missingEntity (id : EntityId)
  /-- A value names no live entity. -/
  | unknownObjectId (value : Int16)
  /-- The identity of an entity does not fit in a variable. -/
  | idOverflow (id : EntityId)
  | invalidRange (range : Int16)
  /-- An operand is not one for the primitive. -/
  | operandMismatch (expected : PrimitiveKind)
  deriving DecidableEq, Inhabited

/-- The text of a fault. -/
def PrimitiveFault.message : PrimitiveFault → String
  | .divideByZero => "division by zero"
  | .slotOutOfRange scope index =>
    Enumeration.title scope ++ " slot " ++ toString index.toInt ++ " is out of range"
  | .readOnly scope => Enumeration.title scope ++ " variables are read-only"
  | .noStackObject => "no stack object is set"
  | .noCaller => "thread has no caller"
  | .missingEntity id => "entity " ++ id.text ++ " does not exist"
  | .unknownObjectId value => "value " ++ toString value.toInt ++ " does not name a live entity"
  | .idOverflow id => "entity " ++ id.text ++ " cannot be addressed by a 16-bit variable"
  | .invalidRange range => "random range " ++ toString range.toInt ++ " must be positive"
  | .operandMismatch expected => expected.name ++ " handler received a foreign operand"

end Lockstep
