import Lockstep.Operand

/-!
# The layout of operands

An operand is stored in the first bytes of a sixteen-byte buffer, with every number in
little-endian order, and the bytes after it mean nothing. `Operand.encode` writes exactly the
bytes of the layout. `Operand.decode` checks the opcode first, then the length, and then the
fields in the order of the layout.
-/

set_option autoImplicit false

namespace Lockstep

open Bytes (littleEndian ofLittleEndian)

/-! ## Errors -/

/-- Why an operand cannot be decoded. -/
inductive OperandError where
  /-- The buffer is shorter than the layout. -/
  | truncated (primitive : String) (expected actual : Nat)
  /-- A field holds a number that stands for nothing. -/
  | invalidField (primitive field : String) (value : UInt8)
  /-- No primitive has the opcode. -/
  | unknownPrimitive (opcode : UInt16)
  deriving DecidableEq, Inhabited

namespace OperandError

/-- Whether the buffer is at fault and not the opcode. -/
def isMalformed : OperandError → Bool
  | .unknownPrimitive _ => false
  | _ => true

/-- The text of an error. -/
def message : OperandError → String
  | .truncated primitive expected actual =>
    primitive ++ " operand needs " ++ toString expected ++ " bytes but only " ++ toString actual ++
      " were supplied"
  | .invalidField primitive field value =>
    primitive ++ " operand field `" ++ field ++ "` holds invalid value " ++ toString value.toNat
  | .unknownPrimitive opcode => "opcode " ++ codeNumeral opcode ++ " has no registered primitive"

end OperandError

/-! ## Words -/

/-- The two bytes of an unsigned number. -/
def unsignedLayout (value : UInt16) : Bytes := littleEndian 2 value.toNat

/-- The two bytes of a signed number. -/
def signedLayout (value : Int16) : Bytes := littleEndian 2 value.toUInt16.toNat

/-- The four bytes of an unsigned number. -/
def longLayout (value : UInt32) : Bytes := littleEndian 4 value.toNat

/-- The unsigned number of two bytes. -/
def unsignedWord (low high : UInt8) : UInt16 := UInt16.ofNat (ofLittleEndian [low, high])

/-- The signed number of two bytes. -/
def signedWord (low high : UInt8) : Int16 := (unsignedWord low high).toInt16

/-- A scope and then a number. -/
def VarRef.layout (reference : VarRef) : Bytes :=
  Enumeration.code reference.scope :: signedLayout reference.data

/-! ## Encoding -/

/-- The bytes of a primitive's arguments. -/
def Primitive.encode : Primitive → Bytes
  | .sleep ticks => unsignedLayout ticks
  | .expression lhs rhs op =>
    signedLayout lhs.data ++ signedLayout rhs.data ++
      [Enumeration.code op, Enumeration.code lhs.scope, Enumeration.code rhs.scope]
  | .randomNumber dest range => dest.layout ++ range.layout
  | .playSound sound volume flags => longLayout sound ++ [volume, flags.bits]
  | .stopAllSounds flags => [flags.bits]
  | .animate animation duration flags =>
    unsignedLayout animation ++ unsignedLayout duration ++ [flags.bits]
  | .relationship op value => Enumeration.code op :: value.layout
  | .carry mode => [Enumeration.code mode]
  | .setStackObject source => source.layout
  | .removeObject flags => [flags.bits]
  | .notify message => unsignedLayout message

/-- The bytes of a call's arguments and flags. -/
def Call.encode (request : Call) : Bytes :=
  request.args.toList.flatMap signedLayout ++ [request.flags.bits]

/-- The bytes of an operand. -/
def Operand.encode : Operand → Bytes
  | .primitive action => action.encode
  | .call request => request.encode

/-! ## Decoding -/

/-- How many bytes the layout of a call has. -/
def callLength : Nat := 9

/-- A field that holds a word. -/
def decodeField {α : Type} [Enumeration α] (kind : PrimitiveKind) (field : String) (code : UInt8) :
    Except OperandError α :=
  match Enumeration.ofCode? code with
  | some word => .ok word
  | none => .error (.invalidField kind.name field code)

/-- A scope and then a number. -/
def decodeVarRef (kind : PrimitiveKind) (field : String) (scope low high : UInt8) :
    Except OperandError VarRef :=
  match decodeField kind field scope with
  | .ok scope => .ok ⟨scope, signedWord low high⟩
  | .error error => .error error

/-- The primitive of a kind whose arguments begin a buffer. -/
def Primitive.decode (kind : PrimitiveKind) (buffer : Bytes) : Except OperandError Primitive :=
  match kind, buffer with
  | .sleep, low :: high :: _ => .ok (.sleep (unsignedWord low high))
  | .expression, lhsLow :: lhsHigh :: rhsLow :: rhsHigh :: op :: lhsScope :: rhsScope :: _ => do
    let op ← decodeField kind "op" op
    let lhs ← decodeVarRef kind "lhs_scope" lhsScope lhsLow lhsHigh
    let rhs ← decodeVarRef kind "rhs_scope" rhsScope rhsLow rhsHigh
    .ok (.expression lhs rhs op)
  | .randomNumber, destScope :: destLow :: destHigh :: rangeScope :: rangeLow :: rangeHigh :: _ => do
    let dest ← decodeVarRef kind "dest_scope" destScope destLow destHigh
    let range ← decodeVarRef kind "range_scope" rangeScope rangeLow rangeHigh
    .ok (.randomNumber dest range)
  | .playSound, first :: second :: third :: fourth :: volume :: flags :: _ =>
    .ok (.playSound (UInt32.ofNat (ofLittleEndian [first, second, third, fourth])) volume ⟨flags⟩)
  | .stopAllSounds, flags :: _ => .ok (.stopAllSounds ⟨flags⟩)
  | .animate, animationLow :: animationHigh :: durationLow :: durationHigh :: flags :: _ =>
    .ok (.animate (unsignedWord animationLow animationHigh)
      (unsignedWord durationLow durationHigh) ⟨flags⟩)
  | .relationship, op :: scope :: low :: high :: _ => do
    let op ← decodeField kind "op" op
    let value ← decodeVarRef kind "scope" scope low high
    .ok (.relationship op value)
  | .carry, mode :: _ => do
    let mode ← decodeField kind "mode" mode
    .ok (.carry mode)
  | .setStackObject, scope :: low :: high :: _ => do
    let source ← decodeVarRef kind "scope" scope low high
    .ok (.setStackObject source)
  | .removeObject, flags :: _ => .ok (.removeObject ⟨flags⟩)
  | .notify, low :: high :: _ => .ok (.notify (unsignedWord low high))
  | _, _ => .error (.truncated kind.name kind.layoutLength buffer.length)

/-- The call of a behavior whose arguments begin a buffer. -/
def Call.decode (behavior : UInt16) (buffer : Bytes) : Except OperandError Call :=
  match buffer with
  | a :: a' :: b :: b' :: c :: c' :: d :: d' :: flags :: _ =>
    .ok ⟨behavior, #v[signedWord a a', signedWord b b', signedWord c c', signedWord d d'], ⟨flags⟩⟩
  | _ => .error (.truncated "call" callLength buffer.length)

/-- The operand that an opcode and a buffer stand for. -/
def Operand.decode (opcode : UInt16) (buffer : Bytes) : Except OperandError Operand :=
  if callBase ≤ opcode then (Call.decode opcode buffer).map .call
  else
    match PrimitiveKind.ofOpcode? opcode with
    | some kind => (Primitive.decode kind buffer).map .primitive
    | none => .error (.unknownPrimitive opcode)

end Lockstep
