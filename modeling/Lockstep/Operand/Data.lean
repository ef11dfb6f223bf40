import Lockstep.Operand

/-!
# Operands as data

An operand is a variant under the tag `primitive`: the name of its kind, or `call`, and then its
arguments by name. Flags that are absent are empty, and the absent arguments of a call are
zero.
-/

set_option autoImplicit false

namespace Lockstep

instance : Written VariableScope where
  write := Enumeration.write
  read := Enumeration.read

instance : Written ExpressionOp where
  write := Enumeration.write
  read := Enumeration.read

instance : Written RelationshipOp where
  write := Enumeration.write
  read := Enumeration.read

instance : Written CarryMode where
  write := Enumeration.write
  read := Enumeration.read

instance : Written VarRef where
  write reference := .record
    [("scope", Written.write reference.scope), ("data", Written.write reference.data)]
  read encoding datum := do
    let fields ← datum.fields? encoding ["scope", "data"]
    let scope ← fields.required "scope"
    let data ← fields.required "data"
    some ⟨scope, data⟩

/-! ## Primitives -/

/-- The arguments of a primitive by name. -/
def Primitive.arguments : Primitive → List (String × Datum)
  | .sleep ticks => [("ticks", Written.write ticks)]
  | .expression lhs rhs op =>
    [("lhs", Written.write lhs), ("rhs", Written.write rhs), ("op", Written.write op)]
  | .randomNumber dest range => [("dest", Written.write dest), ("range", Written.write range)]
  | .playSound sound volume flags =>
    [("sound", Written.write sound), ("volume", Written.write volume),
      ("flags", Written.write flags)]
  | .stopAllSounds flags => [("flags", Written.write flags)]
  | .animate animation duration flags =>
    [("animation", Written.write animation), ("duration", Written.write duration),
      ("flags", Written.write flags)]
  | .relationship op value => [("op", Written.write op), ("value", Written.write value)]
  | .carry mode => [("mode", Written.write mode)]
  | .setStackObject source => [("source", Written.write source)]
  | .removeObject flags => [("flags", Written.write flags)]
  | .notify message => [("message", Written.write message)]

/-- The primitive of a kind with the arguments found in a datum. -/
def Primitive.ofArguments? (kind : PrimitiveKind) (datum : Datum) :
    Option Primitive :=
  match kind with
  | .sleep => do
    let fields ← datum.fields? .buffered ["ticks"]
    let ticks ← fields.required "ticks"
    some (.sleep ticks)
  | .expression => do
    let fields ← datum.fields? .buffered ["lhs", "rhs", "op"]
    let lhs ← fields.required "lhs"
    let rhs ← fields.required "rhs"
    let op ← fields.required "op"
    some (.expression lhs rhs op)
  | .randomNumber => do
    let fields ← datum.fields? .buffered ["dest", "range"]
    let dest ← fields.required "dest"
    let range ← fields.required "range"
    some (.randomNumber dest range)
  | .playSound => do
    let fields ← datum.fields? .buffered ["sound", "volume", "flags"]
    let sound ← fields.required "sound"
    let volume ← fields.required "volume"
    let flags ← fields.defaulted "flags" FlagSet.empty
    some (.playSound sound volume flags)
  | .stopAllSounds => do
    let fields ← datum.fields? .buffered ["flags"]
    let flags ← fields.defaulted "flags" FlagSet.empty
    some (.stopAllSounds flags)
  | .animate => do
    let fields ← datum.fields? .buffered ["animation", "duration", "flags"]
    let animation ← fields.required "animation"
    let duration ← fields.required "duration"
    let flags ← fields.defaulted "flags" FlagSet.empty
    some (.animate animation duration flags)
  | .relationship => do
    let fields ← datum.fields? .buffered ["op", "value"]
    let op ← fields.required "op"
    let value ← fields.required "value"
    some (.relationship op value)
  | .carry => do
    let fields ← datum.fields? .buffered ["mode"]
    let mode ← fields.required "mode"
    some (.carry mode)
  | .setStackObject => do
    let fields ← datum.fields? .buffered ["source"]
    let source ← fields.required "source"
    some (.setStackObject source)
  | .removeObject => do
    let fields ← datum.fields? .buffered ["flags"]
    let flags ← fields.defaulted "flags" FlagSet.empty
    some (.removeObject flags)
  | .notify => do
    let fields ← datum.fields? .buffered ["message"]
    let message ← fields.required "message"
    some (.notify message)

/-! ## Calls and operands -/

/-- The call found in a datum. -/
def Call.ofArguments? (datum : Datum) : Option Call := do
  let fields ← datum.fields? .buffered ["behavior", "args", "flags"]
  let behavior ← fields.required "behavior"
  let args ← fields.defaulted "args" (Vector.replicate 4 0)
  let flags ← fields.defaulted "flags" FlagSet.empty
  some ⟨behavior, args, flags⟩

/-- The names of the variants of an operand. -/
def Operand.variantNames : List String :=
  (Enumeration.all : List PrimitiveKind).map PrimitiveKind.name ++ ["call"]

instance : Written Operand where
  write
    | .primitive action => .variant "primitive" action.kind.name action.arguments
    | .call request => .variant "primitive" "call"
      [("behavior", Written.write request.behavior), ("args", Written.write request.args),
        ("flags", Written.write request.flags)]
  read encoding datum := do
    let (name, arguments) ← datum.variant? encoding "primitive" Operand.variantNames
    match (Enumeration.ofName? name : Option PrimitiveKind) with
    | some kind => (Primitive.ofArguments? kind arguments).map .primitive
    | none => (Call.ofArguments? arguments).map .call

end Lockstep
