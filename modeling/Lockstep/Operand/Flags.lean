import Lockstep.Datum.Written
import Lockstep.Text.Blank
import Lockstep.Text.Cut
import Lockstep.Text.Numeral

/-!
# Flags

A set of flags is one byte. Its kind names some of the bits, from the lowest up, and the others
have no name but are kept. As a text the named flags come first, in the order of their bits, and
then the nameless ones as one hexadecimal number, with a bar between any two parts. The empty
set is the empty text.
-/

set_option autoImplicit false

namespace Lockstep

/-- A kind of flags: its title, and the names of the bits from the lowest up. -/
structure FlagKind where
  title : String
  names : List String

/-- A byte of flags of some kind. -/
structure FlagSet (kind : FlagKind) where
  bits : UInt8
  deriving DecidableEq

namespace FlagSet

variable {kind : FlagKind}

/-- No flags. -/
def empty : FlagSet kind := ⟨0⟩

instance : Inhabited (FlagSet kind) := ⟨empty⟩

/-- Whether the flag at a place is set. -/
def has (flags : FlagSet kind) (place : Nat) : Bool := flags.bits.toNat.testBit place

/-! ## Text -/

/-- The names of the flags that are set. -/
def setNames (flags : FlagSet kind) : List String :=
  (kind.names.zipIdx.filter fun entry => flags.has entry.2).map Prod.fst

/-- The bits that have no name. -/
def namelessBits (flags : FlagSet kind) : Nat :=
  flags.bits.toNat >>> kind.names.length <<< kind.names.length

/-- The text of a set of flags. -/
def text (flags : FlagSet kind) : String :=
  let nameless := flags.namelessBits
  String.intercalate " | " (flags.setNames ++ if nameless = 0 then [] else [hexNumeral nameless])

/-- The text of a set of flags after the title of its kind, where the empty set is zero. -/
def display (flags : FlagSet kind) : String :=
  kind.title ++ "(" ++ (if flags.bits = 0 then "0x0" else flags.text) ++ ")"

/-- A text without the blanks around it. -/
def trim (text : List Char) : List Char :=
  ((text.dropWhile isBlank).reverse.dropWhile isBlank).reverse

/-- The value of hexadecimal digits, at least one, with a sign of plus allowed. -/
def hexByte? (digits : List Char) : Option UInt8 :=
  let unsigned := match digits with
    | '+' :: rest => rest
    | _ => digits
  match unsigned with
  | [] => none
  | _ =>
    match unsigned.mapM hexValue? with
    | some values =>
      let value := values.foldl (fun value digit => 16 * value + digit) 0
      if value < 0x100 then some (UInt8.ofNat value) else none
    | none => none

/-- The bits that one part of a text stands for. -/
def partBits? (kind : FlagKind) (part : List Char) : Option UInt8 :=
  match trim part with
  | [] => none
  | '0' :: 'x' :: digits => hexByte? digits
  | name => (kind.names.findIdx? (· == String.ofList name)).map fun place => UInt8.ofNat (1 <<< place)

/-- The set of flags that a text names. -/
def ofText? (text : String) : Option (FlagSet kind) :=
  if (trim text.toList).isEmpty then some empty
  else ((cutAt '|' text.toList).mapM (partBits? kind)).map fun parts => ⟨parts.foldl (· ||| ·) 0⟩

end FlagSet

instance {kind : FlagKind} : Written (FlagSet kind) where
  write flags := .text flags.text
  read _
    | .text text => FlagSet.ofText? text
    | _ => none

/-! ## The kinds of flags -/

/-- Flags of a primitive that plays a sound. -/
abbrev SoundFlags := FlagSet ⟨"SoundFlags", ["LOOP", "STACK_OBJECT"]⟩

/-- Flags of a primitive that acts on the stack object or on an entity of its own choice. -/
abbrev TargetFlags := FlagSet ⟨"TargetFlags", ["STACK_OBJECT"]⟩

/-- Flags of a call. -/
abbrev CallFlags := FlagSet ⟨"CallFlags", ["CATCH_ERRORS"]⟩

namespace FlagSet

/-- Whether a sound repeats. -/
def loops (flags : SoundFlags) : Bool := flags.has 0

/-- Whether a sound is given to the stack object. -/
def soundsOnStackObject (flags : SoundFlags) : Bool := flags.has 1

/-- Whether a primitive acts on the stack object. -/
def onStackObject (flags : TargetFlags) : Bool := flags.has 0

/-- Whether an error below a call takes the false branch of the call. -/
def catchesErrors (flags : CallFlags) : Bool := flags.has 0

end FlagSet
end Lockstep
