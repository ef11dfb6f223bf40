import Lockstep.Bytes.Text
import Lockstep.Text.Cut

/-!
# Addresses of servers

An address names an interface of this computer and, after the last colon, a port. An interface of
the fourth version of the protocol is a number of four bytes. It is written in one to four parts,
each of them decimal, octal after a zero or hexadecimal after `0x`: every part but the last is one
byte, and the last fills the bytes that are left. An interface of the sixth version is written in
eight groups, in brackets or without, and may end in a percent sign and the number of a zone, which
makes no difference.

`Address.ofText?` gives the addresses that a server on this computer can take. Other interfaces
belong to other computers. Of the sixth version this computer has none of its own, so that a server
takes all of them at once, or one of the fourth version that is written as eight groups.
-/

set_option autoImplicit false

namespace Lockstep

/-- Where a server on this computer can be reached. -/
inductive Interface where
  /-- A number of four bytes. -/
  | four (number : UInt32)
  /-- A number of four bytes, as an interface of the sixth version. -/
  | sixMapped (number : UInt32)
  /-- All interfaces, in the sixth version. -/
  | sixUnspecified
  deriving DecidableEq, Inhabited

/-- An address that a server on this computer can take. -/
structure Address where
  interface : Interface
  port : UInt16
  deriving DecidableEq, Inhabited

namespace Interface

/-! ## Numbers of four bytes -/

/-- The number that digits spell in a base of at most sixteen. -/
def inBase? (base : Nat) : List Char → Nat → Option Nat
  | [], value => some value
  | digit :: rest, value =>
    match hexValue? digit with
    | some place => if place < base then inBase? base rest (base * value + place) else none
    | none => none

/-- The number that a part spells. -/
def part? : List Char → Option Nat
  | [] => none
  | '0' :: mark :: digits =>
    if mark = 'x' ∨ mark = 'X' then
      if digits.isEmpty then none else inBase? 16 digits 0
    else inBase? 8 (mark :: digits) 0
  | digits => inBase? 10 digits 0

/-- The number of so many bytes that is given in parts. -/
def joined? : List Nat → Nat → Option Nat
  | [], _ => none
  | [last], width => if last < Bytes.capacity width then some last else none
  | part :: rest, width =>
    if part < 256 ∧ 1 < width then
      (joined? rest (width - 1)).map fun number => part * Bytes.capacity (width - 1) + number
    else none

/-- Whether a server can take a number: it belongs to this computer, it stands for all of its
interfaces, or it is shared by many computers. -/
def isOwn (number : Nat) : Bool :=
  let first := number / Bytes.capacity 3
  number = 0 || first = 127 || (224 ≤ first && first < 240) || number = 0xFFFFFFFF

/-- The interface that a number names. -/
def four? (text : List Char) : Option Interface := do
  let parts ← (cutAt '.' text).mapM part?
  let number ← joined? parts 4
  if isOwn number then some (.four (UInt32.ofNat number)) else none

/-! ## Groups -/

/-- A group of one to four hexadecimal digits. -/
def group? (digits : List Char) : Option Nat :=
  if digits.isEmpty ∨ 4 < digits.length then none else inBase? 16 digits 0

/-- A byte of one to three decimal digits, without a zero in front. -/
def plainByte? (digits : List Char) : Option Nat :=
  match digits with
  | [] | '0' :: _ :: _ => none
  | digits => (inBase? 10 digits 0).filter fun value => value < 0x100

/-- The two groups that four bytes make. -/
def bytesAsGroups? (text : List Char) : Option (List Nat) := do
  match ← (cutAt '.' text).mapM plainByte? with
  | [first, second, third, fourth] => some [0x100 * first + second, 0x100 * third + fourth]
  | _ => none

/-- The groups that parts spell, of which the last may be written as bytes. -/
def groupsOf? (bytesLast : Bool) : List (List Char) → Option (List Nat)
  | [] => some []
  | [last] =>
    if bytesLast && last.contains '.' then bytesAsGroups? last else (group? last).map fun group => [group]
  | part :: rest => do
    let group ← group? part
    let groups ← groupsOf? bytesLast rest
    some (group :: groups)

/-- The groups between single colons. -/
def groups? (bytesLast : Bool) (text : List Char) : Option (List Nat) :=
  if text.isEmpty then some [] else groupsOf? bytesLast (cutAt ':' text)

/-- What stands before and after the first two colons in a row. -/
def aroundColons? : List Char → Option (List Char × List Char)
  | ':' :: ':' :: rest => some ([], rest)
  | character :: rest => (aroundColons? rest).map fun (before, after) => (character :: before, after)
  | [] => none

/-- The eight groups that a text names. Two colons in a row stand for at least one group of zero. -/
def eightGroups? (text : List Char) : Option (List Nat) := do
  match aroundColons? text with
  | none =>
    let groups ← groups? true text
    if groups.length = 8 then some groups else none
  | some (before, after) =>
    let before ← groups? false before
    let after ← groups? true after
    let missing := 8 - (before.length + after.length)
    if missing = 0 then none else some (before ++ List.replicate missing 0 ++ after)

/-- Whether digits are the number of a zone, which has four bytes. -/
def isZone (digits : List Char) : Bool :=
  !digits.isEmpty && (inBase? 10 digits 0).any fun number => number < Bytes.capacity 4

/-- What stands before the zone, if there is one. -/
def beforeZone? (text : List Char) : Option (List Char) :=
  match text.dropWhile (· ≠ '%') with
  | [] => some text
  | _ :: zone => if isZone zone then some (text.takeWhile (· ≠ '%')) else none

/-- The interface that groups name. -/
def six? (text : List Char) : Option Interface :=
  match (beforeZone? text).bind eightGroups? with
  | some [0, 0, 0, 0, 0, 0, 0, 0] => some .sixUnspecified
  | some [0, 0, 0, 0, 0, 0xFFFF, high, low] =>
    let number := 0x10000 * high + low
    if isOwn number then some (.sixMapped (UInt32.ofNat number)) else none
  | _ => none

/-! ## Names -/

/-- The interface that is reached from this computer alone. -/
def loopback : Interface := .four 0x7F000001

/-- The interface that a text without brackets names. -/
def ofText? (text : List Char) : Option Interface :=
  if (String.ofList text).toLower = "localhost" then some loopback
  else (four? text).orElse fun _ => six? text

/-- Whether an interface can only be reached from this computer. -/
def isLoopback : Interface → Bool
  | .four number => number.toNat / Bytes.capacity 3 = 127
  | .sixMapped _ | .sixUnspecified => false

/-- Four bytes as they are always shown. -/
def dotted (number : UInt32) : String :=
  String.intercalate "." ((Bytes.bigEndian 4 number.toNat).map fun byte => toString byte.toNat)

/-- The text of an interface. -/
def text : Interface → String
  | .four number => dotted number
  | .sixMapped number => "[::ffff:" ++ dotted number ++ "]"
  | .sixUnspecified => "[::]"

end Interface

namespace Address

/-- The port that digits spell. -/
def port? (digits : List Char) : Option UInt16 :=
  if digits.isEmpty ∨ !digits.all Char.isDigit then none
  else
    (Interface.inBase? 10 digits 0).bind fun value =>
      if value < 0x10000 then some (UInt16.ofNat value) else none

/-- The address that a text names. Only an interface without brackets lets a plus stand before the
port. -/
def ofText? (text : String) : Option Address :=
  let reversed := text.toList.reverse
  let digits := (reversed.takeWhile (· ≠ ':')).reverse
  match reversed.dropWhile (· ≠ ':') with
  | ':' :: ']' :: host =>
    match host.reverse with
    | '[' :: host => do
      let interface ← Interface.six? host
      let port ← port? digits
      some ⟨interface, port⟩
    | _ => none
  | ':' :: host => do
    let interface ← Interface.ofText? host.reverse
    let port ← match digits with
      | '+' :: digits => port? digits
      | _ => port? digits
    some ⟨interface, port⟩
  | _ => none

/-- Whether an address can only be reached from this computer. -/
def isLoopback (address : Address) : Bool := address.interface.isLoopback

/-- The text of an address. -/
def text (address : Address) : String :=
  address.interface.text ++ ":" ++ toString address.port.toNat

end Address

end Lockstep
