import Lockstep.Behavior
import Lockstep.Table

/-!
# Behavior libraries

The behaviors that a world can run, by number. No number is given to two behaviors: the first
one that has it stays, and the second is refused.
-/

set_option autoImplicit false

namespace Lockstep

/-- Behaviors by number. -/
structure Library where
  behaviors : Table UInt16 Behavior
  deriving DecidableEq

/-- Two behaviors have the same number. -/
structure DuplicateBehavior where
  id : UInt16
  deriving DecidableEq

/-- The text of the error. -/
def DuplicateBehavior.message (error : DuplicateBehavior) : String :=
  "behavior " ++ codeNumeral error.id ++ " is defined twice"

namespace Library

/-- The library without behaviors. -/
def empty : Library := ⟨Table.empty⟩

instance : Inhabited Library := ⟨empty⟩

/-- The behavior with a number. -/
def get? (library : Library) (id : UInt16) : Option Behavior := library.behaviors.get? id

/-- Whether a behavior has a number. -/
def contains (library : Library) (id : UInt16) : Bool := library.behaviors.contains id

/-- Add a behavior under its number. -/
def insert (library : Library) (behavior : Behavior) : Except DuplicateBehavior Library :=
  if library.contains behavior.id then .error ⟨behavior.id⟩
  else .ok ⟨library.behaviors.insert behavior.id behavior⟩

/-- The library of some behaviors. -/
def ofBehaviors (behaviors : List Behavior) : Except DuplicateBehavior Library :=
  behaviors.foldlM insert empty

/-- The instruction of a behavior at an index. -/
def instruction? (library : Library) (behavior : UInt16) (index : UInt8) : Option Instruction :=
  (library.get? behavior).bind fun behavior => behavior.instructions[index.toNat]?

end Library
end Lockstep
