import Lockstep.CommandLine.Help
import Lockstep.Files

/-!
# Programs

A program reads its arguments, works on files, and prints what it was asked for, or an error.
-/

set_option autoImplicit false

namespace Lockstep.CommandLine

/-- How a program ended. -/
inductive Ending where
  /-- It did what it was asked for. -/
  | success
  /-- It met an error. -/
  | failure
  /-- It could not make sense of its arguments. -/
  | misuse
  deriving DecidableEq, Inhabited

/-- The number that stands for an ending. -/
def Ending.code : Ending → Nat
  | .success => 0
  | .failure => 1
  | .misuse => 2

/-- A program. -/
structure Program (m : Type → Type) where
  name : String
  /-- What the program says when it is asked for its version. -/
  version : String
  /-- What the program is for. -/
  about : String
  specs : List OptionSpec
  /-- The options that it cannot do without. -/
  required : List String
  /-- The arguments that are not options. It cannot do without them either. -/
  others : List HelpEntry
  /-- What the program does with its arguments. It ends early with the message of an error. -/
  body : Arguments → ExceptT String m Unit

/-- Run a program with some arguments. -/
def Program.run {m : Type → Type} [Monad m] [FileSystem m] (program : Program m)
    (arguments : List String) : m Ending := do
  match parse program.specs program.others.length arguments ⟨[], []⟩ with
  | .invalid => return .misuse
  | .version =>
    printLines [program.version]
    return .success
  | .help =>
    printLines (helpLines program.name program.about program.required program.others program.specs)
    return .success
  | .arguments found =>
    if found.others.length = program.others.length ∧ program.required.all found.has then
      match ← (program.body found).run with
      | .ok () => return .success
      | .error message =>
        FileSystem.print .errors ("Error: " ++ message ++ "\n")
        return .failure
    else return .misuse

end Lockstep.CommandLine
