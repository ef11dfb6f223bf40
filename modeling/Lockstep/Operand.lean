import Lockstep.Operand.Flags

/-!
# Operands

What an instruction does is said by its operand: one of eleven primitives with its arguments, or
a call of another behavior. Values are named by a `VarRef`, a scope and a number within it.

Each primitive has an opcode below `callBase` and a layout of a known length. A call has the
number of the behavior it calls as its opcode.
-/

set_option autoImplicit false

namespace Lockstep

/-- Opcodes from here on call the behavior with the same number. -/
def callBase : UInt16 := 0x0100

/-! ## Words -/

/-- Where a value is read from or written to. -/
inductive VariableScope where
  | literal | temp | localVar | param | myAttribute | stackObjectAttribute | stackObjectId
  | callerAttribute
  deriving DecidableEq, Inhabited

instance : Enumeration VariableScope where
  all := [.literal, .temp, .localVar, .param, .myAttribute, .stackObjectAttribute, .stackObjectId,
    .callerAttribute]
  code
    | .literal => 0
    | .temp => 1
    | .localVar => 2
    | .param => 3
    | .myAttribute => 4
    | .stackObjectAttribute => 5
    | .stackObjectId => 6
    | .callerAttribute => 7
  name
    | .literal => "literal"
    | .temp => "temp"
    | .localVar => "local"
    | .param => "param"
    | .myAttribute => "my_attribute"
    | .stackObjectAttribute => "stack_object_attribute"
    | .stackObjectId => "stack_object_id"
    | .callerAttribute => "caller_attribute"
  title
    | .literal => "Literal"
    | .temp => "Temp"
    | .localVar => "Local"
    | .param => "Param"
    | .myAttribute => "MyAttribute"
    | .stackObjectAttribute => "StackObjectAttribute"
    | .stackObjectId => "StackObjectId"
    | .callerAttribute => "CallerAttribute"

/-- The operators of expressions. -/
inductive ExpressionOp where
  | assign | add | sub | mul | div | mod | and | or | less | greater | equal | lessOrEqual
  | greaterOrEqual | notEqual
  deriving DecidableEq, Inhabited

instance : Enumeration ExpressionOp where
  all := [.assign, .add, .sub, .mul, .div, .mod, .and, .or, .less, .greater, .equal, .lessOrEqual,
    .greaterOrEqual, .notEqual]
  code
    | .assign => 0
    | .add => 1
    | .sub => 2
    | .mul => 3
    | .div => 4
    | .mod => 5
    | .and => 6
    | .or => 7
    | .less => 8
    | .greater => 9
    | .equal => 10
    | .lessOrEqual => 11
    | .greaterOrEqual => 12
    | .notEqual => 13
  name
    | .assign => "assign"
    | .add => "add"
    | .sub => "sub"
    | .mul => "mul"
    | .div => "div"
    | .mod => "mod"
    | .and => "and"
    | .or => "or"
    | .less => "less"
    | .greater => "greater"
    | .equal => "equal"
    | .lessOrEqual => "less_or_equal"
    | .greaterOrEqual => "greater_or_equal"
    | .notEqual => "not_equal"
  title
    | .assign => "Assign"
    | .add => "Add"
    | .sub => "Sub"
    | .mul => "Mul"
    | .div => "Div"
    | .mod => "Mod"
    | .and => "And"
    | .or => "Or"
    | .less => "Less"
    | .greater => "Greater"
    | .equal => "Equal"
    | .lessOrEqual => "LessOrEqual"
    | .greaterOrEqual => "GreaterOrEqual"
    | .notEqual => "NotEqual"

/-- Whether an operator compares, and so branches instead of storing a value. -/
def ExpressionOp.isComparison : ExpressionOp → Bool
  | .less | .greater | .equal | .lessOrEqual | .greaterOrEqual | .notEqual => true
  | _ => false

/-- What is done with a relationship. -/
inductive RelationshipOp where
  | get | set | adjust
  deriving DecidableEq, Inhabited

instance : Enumeration RelationshipOp where
  all := [.get, .set, .adjust]
  code
    | .get => 0
    | .set => 1
    | .adjust => 2
  name
    | .get => "get"
    | .set => "set"
    | .adjust => "adjust"
  title
    | .get => "Get"
    | .set => "Set"
    | .adjust => "Adjust"

/-- Whether something is picked up or put down. -/
inductive CarryMode where
  | grab | drop
  deriving DecidableEq, Inhabited

instance : Enumeration CarryMode where
  all := [.grab, .drop]
  code
    | .grab => 0
    | .drop => 1
  name
    | .grab => "grab"
    | .drop => "drop"
  title
    | .grab => "Grab"
    | .drop => "Drop"

/-! ## Primitives -/

/-- A variable or a literal value: a scope and a number within it. -/
structure VarRef where
  scope : VariableScope
  data : Int16
  deriving DecidableEq, Inhabited

/-- The literal with a value. -/
def VarRef.literal (value : Int16) : VarRef := ⟨.literal, value⟩

/-- A primitive and its arguments. -/
inductive Primitive where
  /-- Wait for some ticks. -/
  | sleep (ticks : UInt16)
  /-- Compute or compare. -/
  | expression (lhs rhs : VarRef) (op : ExpressionOp)
  /-- Store a random number below a bound. -/
  | randomNumber (dest range : VarRef)
  /-- Start a sound. -/
  | playSound (sound : UInt32) (volume : UInt8) (flags : SoundFlags)
  /-- Stop all sounds of an entity. -/
  | stopAllSounds (flags : TargetFlags)
  /-- Play an animation and wait for its end. -/
  | animate (animation duration : UInt16) (flags : TargetFlags)
  /-- Read or change what the owner feels about the stack object. -/
  | relationship (op : RelationshipOp) (value : VarRef)
  /-- Pick the stack object up, or put down what is carried. -/
  | carry (mode : CarryMode)
  /-- Choose the stack object. -/
  | setStackObject (source : VarRef)
  /-- Remove an entity. -/
  | removeObject (flags : TargetFlags)
  /-- Send a message to a client. -/
  | notify (message : UInt16)
  deriving DecidableEq, Inhabited

/-- A call of a behavior with four arguments. -/
structure Call where
  behavior : UInt16
  args : Vector Int16 4
  flags : CallFlags
  deriving DecidableEq, Inhabited

/-- What an instruction does. -/
inductive Operand where
  | primitive (action : Primitive)
  | call (request : Call)
  deriving DecidableEq, Inhabited

/-! ## Kinds and opcodes -/

/-- The eleven kinds of primitive. -/
inductive PrimitiveKind where
  | sleep | expression | randomNumber | playSound | stopAllSounds | animate | relationship | carry
  | setStackObject | removeObject | notify
  deriving DecidableEq, Inhabited

instance : Enumeration PrimitiveKind where
  all := [.sleep, .expression, .randomNumber, .playSound, .stopAllSounds, .animate, .relationship,
    .carry, .setStackObject, .removeObject, .notify]
  code
    | .sleep => 0
    | .expression => 2
    | .randomNumber => 8
    | .playSound => 11
    | .stopAllSounds => 12
    | .animate => 14
    | .relationship => 20
    | .carry => 22
    | .setStackObject => 24
    | .removeObject => 25
    | .notify => 26
  name
    | .sleep => "sleep"
    | .expression => "expression"
    | .randomNumber => "random_number"
    | .playSound => "play_sound"
    | .stopAllSounds => "stop_all_sounds"
    | .animate => "animate"
    | .relationship => "relationship"
    | .carry => "carry"
    | .setStackObject => "set_stack_object"
    | .removeObject => "remove_object"
    | .notify => "notify"
  title
    | .sleep => "Sleep"
    | .expression => "Expression"
    | .randomNumber => "RandomNumber"
    | .playSound => "PlaySound"
    | .stopAllSounds => "StopAllSounds"
    | .animate => "Animate"
    | .relationship => "Relationship"
    | .carry => "Carry"
    | .setStackObject => "SetStackObject"
    | .removeObject => "RemoveObject"
    | .notify => "Notify"

namespace PrimitiveKind

/-- The name of a kind. -/
def name (kind : PrimitiveKind) : String := Enumeration.name kind

/-- The opcode of a kind. -/
def opcode (kind : PrimitiveKind) : UInt16 := (Enumeration.code kind).toUInt16

/-- The kind with an opcode. -/
def ofOpcode? (opcode : UInt16) : Option PrimitiveKind :=
  (Enumeration.all : List PrimitiveKind).find? fun kind => kind.opcode == opcode

/-- How many operand bytes the layout of a kind has. -/
def layoutLength : PrimitiveKind → Nat
  | .sleep => 2
  | .expression => 7
  | .randomNumber => 6
  | .playSound => 6
  | .stopAllSounds => 1
  | .animate => 5
  | .relationship => 4
  | .carry => 1
  | .setStackObject => 3
  | .removeObject => 1
  | .notify => 2

end PrimitiveKind

/-- The kind of a primitive. -/
def Primitive.kind : Primitive → PrimitiveKind
  | .sleep .. => .sleep
  | .expression .. => .expression
  | .randomNumber .. => .randomNumber
  | .playSound .. => .playSound
  | .stopAllSounds .. => .stopAllSounds
  | .animate .. => .animate
  | .relationship .. => .relationship
  | .carry .. => .carry
  | .setStackObject .. => .setStackObject
  | .removeObject .. => .removeObject
  | .notify .. => .notify

namespace Operand

/-- The kind of an operand's primitive; a call has none. -/
def kind? : Operand → Option PrimitiveKind
  | .primitive action => some action.kind
  | .call _ => none

/-- The opcode of an operand. -/
def opcode : Operand → UInt16
  | .primitive action => action.kind.opcode
  | .call request => request.behavior

end Operand
end Lockstep
