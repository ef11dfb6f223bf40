import Lockstep.Behavior
import Lockstep.Operand.Display
import Lockstep.Json.Printer

/-!
# Listings of behaviors

A listing shows the instructions of a behavior one per line, with their operands decoded. An operand
that cannot be decoded is shown as the reason why. Listings are printed as text or as JSON.
-/

set_option autoImplicit false

namespace Lockstep

/-- The behavior of a file. -/
structure Listing where
  path : String
  behavior : Behavior
  deriving DecidableEq, Inhabited

namespace Listing

/-- The operand of an instruction, or the reason why there is none. -/
def operandText (instruction : Instruction) : String :=
  match instruction.decodeOperand with
  | .ok operand => operand.display
  | .error cause => "<" ++ cause.message ++ ">"

/-- A number of at least three characters. -/
def column (number : Nat) : String := padLeft 3 ' ' (toString number)

/-- The line of an instruction. -/
def instructionLine (index : Nat) (instruction : Instruction) : String :=
  "  " ++ column index ++ ": " ++ codeNumeral instruction.opcode ++ " T->" ++
    column instruction.trueTarget.toNat ++ " F->" ++ column instruction.falseTarget.toNat ++ "  " ++
    operandText instruction

/-- The lines of a listing. -/
def lines (listing : Listing) : List String :=
  let behavior := listing.behavior
  let heading := listing.path ++ " [" ++ codeNumeral behavior.id ++ "] " ++ behavior.name ++ " (" ++
    toString behavior.instructions.length ++ " instructions)"
  heading :: behavior.instructions.zipIdx.map fun entry => instructionLine entry.2 entry.1

/-- An instruction as data: its operand, or the reason why there is none. -/
def instructionDatum (index : Nat) (instruction : Instruction) : Datum :=
  let operand := match instruction.decodeOperand with
    | .ok operand => ("operand", Written.write operand)
    | .error cause => ("error", .text cause.message)
  .record
    [("index", .int index), ("opcode", Written.write instruction.opcode),
      ("true_target", Written.write instruction.trueTarget),
      ("false_target", Written.write instruction.falseTarget), operand]

/-- A listing as data. -/
def datum (listing : Listing) : Datum :=
  let behavior := listing.behavior
  .record
    [("path", .text listing.path), ("id", Written.write behavior.id),
      ("name", Written.write behavior.name),
      ("instructions", .list
        (behavior.instructions.zipIdx.map fun entry => instructionDatum entry.2 entry.1))]

end Listing
end Lockstep
