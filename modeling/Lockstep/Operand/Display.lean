import Lockstep.Operand

/-!
# Operands as displayed text

In listings an operand is shown by the title of its kind, and then all its arguments by name
between braces.
-/

set_option autoImplicit false

namespace Lockstep

/-- A structure with its fields shown by name. -/
def displayStructure (title : String) (fields : List (String × String)) : String :=
  title ++ " \x7b " ++ String.intercalate ", " (fields.map fun field => field.1 ++ ": " ++ field.2) ++
    " \x7d"

/-- The displayed text of a variable reference. -/
def VarRef.display (reference : VarRef) : String :=
  displayStructure "VarRef"
    [("scope", Enumeration.title reference.scope), ("data", toString reference.data.toInt)]

/-- The title of the structure that holds a primitive's arguments. -/
def PrimitiveKind.argumentsTitle : PrimitiveKind → String
  | .stopAllSounds => "StopSoundsOperand"
  | kind => Enumeration.title kind ++ "Operand"

/-- The displayed arguments of a primitive. -/
def Primitive.displayFields : Primitive → List (String × String)
  | .sleep ticks => [("ticks", toString ticks.toNat)]
  | .expression lhs rhs op =>
    [("lhs", lhs.display), ("rhs", rhs.display), ("op", Enumeration.title op)]
  | .randomNumber dest range => [("dest", dest.display), ("range", range.display)]
  | .playSound sound volume flags =>
    [("sound", toString sound.toNat), ("volume", toString volume.toNat), ("flags", flags.display)]
  | .stopAllSounds flags => [("flags", flags.display)]
  | .animate animation duration flags =>
    [("animation", toString animation.toNat), ("duration", toString duration.toNat),
      ("flags", flags.display)]
  | .relationship op value => [("op", Enumeration.title op), ("value", value.display)]
  | .carry mode => [("mode", Enumeration.title mode)]
  | .setStackObject source => [("source", source.display)]
  | .removeObject flags => [("flags", flags.display)]
  | .notify message => [("message", toString message.toNat)]

/-- The displayed text of an operand. -/
def Operand.display : Operand → String
  | .primitive action =>
    Enumeration.title action.kind ++ "(" ++
      displayStructure action.kind.argumentsTitle action.displayFields ++ ")"
  | .call request =>
    let args := String.intercalate ", " (request.args.toList.map fun arg => toString arg.toInt)
    "Call(" ++ displayStructure "CallOperand"
      [("behavior", toString request.behavior.toNat), ("args", "[" ++ args ++ "]"),
        ("flags", request.flags.display)] ++ ")"

end Lockstep
