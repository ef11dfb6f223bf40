import Lockstep.Text.Cut

/-!
# Arguments of programs

A program takes options, each at most once, and perhaps other arguments. An option that has a value
takes it from behind an equals sign or from the next argument, which must not look like an option.
Values are checked as soon as they are met. Asking for the version or for help ends the reading.
-/

set_option autoImplicit false

namespace Lockstep.CommandLine

/-- What the value of an option may be. -/
inductive ValueKind where
  /-- The option has no value. -/
  | flag
  /-- Any text. -/
  | text
  /-- Any text but the empty one. -/
  | path
  /-- A number below 2 ^ 64. -/
  | long
  /-- A number below 2 ^ 32. -/
  | word
  deriving DecidableEq, Inhabited

/-- An option by its name without the hyphens. -/
structure OptionSpec where
  name : String
  kind : ValueKind
  /-- What the option is for. -/
  summary : String
  /-- How its value is called, where the name of the option does not do. -/
  placeholder : Option String := none
  deriving DecidableEq, Inhabited

/-- Arguments that have been read. -/
structure Arguments where
  options : List (String × String)
  others : List String
  deriving DecidableEq, Inhabited

/-- What comes of reading arguments. -/
inductive Parsed where
  | arguments (arguments : Arguments)
  | version
  | help
  | invalid
  deriving DecidableEq, Inhabited

/-! ## Values -/

/-- The number that digits spell. -/
def natural? : List Char → Option Nat
  | [] => none
  | digits =>
    if digits.all Char.isDigit then
      some (digits.foldl (fun value digit => 10 * value + (digit.toNat - 48)) 0)
    else none

/-- The number that a text spells, where a sign of plus may stand in front. -/
def unsigned? : List Char → Option Nat
  | '+' :: digits => natural? digits
  | digits => natural? digits

/-- The number of a value, if it is below a bound. A small number may be a negated zero. -/
def number? (kind : ValueKind) (value : String) : Option Nat :=
  match kind, value.toList with
  | .long, digits => (unsigned? digits).filter fun number => number < 0x10000000000000000
  | .word, '-' :: digits => (natural? digits).filter fun number => number = 0
  | .word, digits => (unsigned? digits).filter fun number => number < 0x100000000
  | _, _ => none

/-- Whether an option may have a value. -/
def ValueKind.accepts (kind : ValueKind) (value : String) : Bool :=
  match kind with
  | .flag => false
  | .text => true
  | .path => value ≠ ""
  | .long | .word => (number? kind value).isSome

/-! ## Reading -/

/-- Whether an argument looks like an option. -/
def looksLikeOption (argument : String) : Bool := argument.startsWith "-" && argument ≠ "-"

/-- The name of a long option and the value behind its equals sign. -/
def splitOption (argument : String) : String × Option String :=
  let body := argument.toList.drop 2
  let name := String.ofList (body.takeWhile (· ≠ '='))
  match body.dropWhile (· ≠ '=') with
  | [] => (name, none)
  | _ :: value => (name, some (String.ofList value))

/-- Read a list of arguments, at most `room` of which are not options. -/
def parse (specs : List OptionSpec) (room : Nat) : List String → Arguments → Parsed
  | [], found => .arguments found
  | "--" :: rest, found =>
    if found.others.length + rest.length ≤ room ∧ rest.all (· ≠ "") then
      .arguments { found with others := found.others ++ rest }
    else .invalid
  | argument :: rest, found =>
    if argument.startsWith "--" then
      let (name, attached) := splitOption argument
      if (name = "version" ∨ name = "help") ∧ attached.isNone then
        if name = "version" then .version else .help
      else
        match specs.find? fun spec => spec.name = name with
        | none => .invalid
        | some spec =>
          if found.options.any fun option => option.1 = name then .invalid
          else
            match spec.kind, attached, rest with
            | .flag, none, rest =>
              parse specs room rest { found with options := (name, "") :: found.options }
            | kind, some value, rest =>
              if kind.accepts value then
                parse specs room rest { found with options := (name, value) :: found.options }
              else .invalid
            | kind, none, value :: rest =>
              if !looksLikeOption value && kind.accepts value then
                parse specs room rest { found with options := (name, value) :: found.options }
              else .invalid
            | _, none, [] => .invalid
    else if argument.startsWith "-V" then .version
    else if argument.startsWith "-h" then .help
    else if looksLikeOption argument ∨ argument = "" ∨ room ≤ found.others.length then .invalid
    else parse specs room rest { found with others := found.others ++ [argument] }

namespace Arguments

/-- The value of an option. -/
def value? (arguments : Arguments) (name : String) : Option String :=
  (arguments.options.find? fun option => option.1 = name).map Prod.snd

/-- Whether an option was given. -/
def has (arguments : Arguments) (name : String) : Bool := (arguments.value? name).isSome

/-- The value of an option that is a number below 2 ^ 64. -/
def long? (arguments : Arguments) (name : String) : Option UInt64 :=
  ((arguments.value? name).bind (number? .long)).map UInt64.ofNat

/-- The value of an option that is a number below 2 ^ 32. -/
def word? (arguments : Arguments) (name : String) : Option UInt32 :=
  ((arguments.value? name).bind (number? .word)).map UInt32.ofNat

end Arguments
end Lockstep.CommandLine
