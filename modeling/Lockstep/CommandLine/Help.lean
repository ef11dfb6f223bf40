import Lockstep.CommandLine.Arguments

/-!
# Help

A program that is asked for help shows what it is for, how it is called, and one entry for each
argument. The summaries of a section stand in one column beside the spellings; when that would
leave too little room for one of them, each stands on a line below its spelling.
-/

set_option autoImplicit false

namespace Lockstep.CommandLine

/-- A line of help about an argument: how it is spelled, and what it is for. -/
structure HelpEntry where
  spelling : String
  summary : String
  deriving DecidableEq, Inhabited

/-- How many characters of a line are counted on. -/
def helpWidth : Nat := 100

/-- Some blanks. -/
def blanks (count : Nat) : String := String.ofList (List.replicate count ' ')

/-- The lines of a section, where a column of summaries needs so much room beside the spellings. -/
def helpSection (title : String) (margin : Nat) (entries : List HelpEntry) : List String :=
  let widest := entries.foldl (fun widest entry => max widest entry.spelling.length) 2
  let taken := widest + margin
  let crowded := 2 * helpWidth < 5 * taken && taken ≤ helpWidth
  let lines (entry : HelpEntry) : List String :=
    if crowded && entries.any fun other => helpWidth - taken < other.summary.length then
      ["  " ++ entry.spelling, blanks 10 ++ entry.summary]
    else
      ["  " ++ entry.spelling ++ blanks (widest + 2 - entry.spelling.length) ++ entry.summary]
  title :: entries.flatMap lines

/-- How the value of an option is called when nothing else is said. -/
def placeholderOf (name : String) : String :=
  name.map fun character => if character = '-' then '_' else character.toUpper

namespace OptionSpec

/-- The long form of an option, with what stands for its value. -/
def long (spec : OptionSpec) : String :=
  if spec.kind = .flag then "--" ++ spec.name
  else "--" ++ spec.name ++ " <" ++ spec.placeholder.getD (placeholderOf spec.name) ++ ">"

/-- What help says of an option. -/
def entry (spec : OptionSpec) : HelpEntry := ⟨blanks 4 ++ spec.long, spec.summary⟩

end OptionSpec

/-- What help says of the options that every program has. -/
def commonEntries : List HelpEntry :=
  [⟨"-h, --help", "Print help"⟩, ⟨"-V, --version", "Print version"⟩]

/-- What help says of a program with a name, by the options that it cannot do without, its other
arguments and its options. -/
def helpLines (name about : String) (required : List String) (others : List HelpEntry)
    (specs : List OptionSpec) : List String :=
  let needed := (specs.filter fun spec => spec.name ∈ required).map OptionSpec.long
  let usage := name :: "[OPTIONS]" :: (needed ++ others.map HelpEntry.spelling)
  [about, "", "Usage: " ++ " ".intercalate usage, ""] ++
    (if others.isEmpty then [] else helpSection "Arguments:" 2 others ++ [""]) ++
    helpSection "Options:" 4 (specs.map OptionSpec.entry ++ commonEntries)

end Lockstep.CommandLine
