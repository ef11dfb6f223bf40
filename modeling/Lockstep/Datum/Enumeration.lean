import Lockstep.Datum

/-!
# Closed sets of words

Scopes, operators, modes and kinds are finite sets whose members have a number in packed
operands, a lower-case name in data, and a title in displayed text. An `Enumeration` lists the
members in the order of their numbers and gives each its three spellings.
-/

set_option autoImplicit false

namespace Lockstep

/-- A finite set of words, listed in order, with the spellings of each. -/
class Enumeration (α : Type) where
  all : List α
  code : α → UInt8
  name : α → String
  title : α → String

namespace Enumeration

variable {α : Type} [Enumeration α]

/-- The member with a number. -/
def ofCode? (code : UInt8) : Option α := (all : List α).find? fun member => Enumeration.code member == code

/-- The member with a name. -/
def ofName? (name : String) : Option α := (all : List α).find? fun member => Enumeration.name member == name

/-- A member is written as its name. -/
def write (member : α) : Datum := .text (name member)

/-- The member that a label names. Where numbers may stand for names, a name may also be given as
bytes. -/
def ofLabel? (encoding : Encoding) : Datum → Option α
  | .text label => ofName? label
  | .bytes label => label.text?.bind ofName?
  | label => (label.position? encoding).bind fun position => (all : List α)[position]?

/-- Whether a datum stands for nothing. When it had been set aside, an empty map does too. -/
def isNothing (encoding : Encoding) : Datum → Bool
  | .null => true
  | .map [] => encoding = .buffered
  | _ => false

/-- A member is read from its name, or from a map that holds nothing for its label alone. Only as it
stands can another label than the name be without the map. -/
def read (encoding : Encoding) : Datum → Option α
  | .text label => ofName? label
  | .map [(label, content)] => if isNothing encoding content then ofLabel? encoding label else none
  | label => if encoding = .packed then ofLabel? encoding label else none

end Enumeration
end Lockstep
