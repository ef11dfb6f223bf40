import Lockstep.Bytes.Text

/-!
# Data

Manifests, messages and snapshots are trees of plain data before they are values of their own
types. A `Datum` is such a tree. It is what both written forms, the textual and the packed
one, have in common: each form reads bytes into data and writes data out, and each type is read
from data and written to data once, for both forms.

A `Datum` keeps the entries of a map in the order in which they stood, and keeps repeated keys,
because whether a repetition is an error depends on what is being read. For the same reason it tells
numbers apart by their spelling: where a name is expected, only some spellings of a number are one
(`Datum.position?`).
-/

set_option autoImplicit false

namespace Lockstep

/-- How a datum came to be read. -/
inductive Encoding where
  /-- From JSON text: map keys and names are texts. -/
  | json
  /-- From MessagePack: map keys may be numbers, a number may stand for the name at its position,
  and a byte string for the list of its bytes. -/
  | packed
  /-- From either, but only after it had been set aside whole, as the fields of a variant are until
  the variant is known. -/
  | buffered
  deriving DecidableEq, Inhabited

/-- A tree of plain data. -/
inductive Datum where
  | null
  | bool (value : Bool)
  /-- A whole number in its shortest spelling. -/
  | int (value : Int)
  /-- A whole number in more bytes than it needs, or with a sign that it does not need. -/
  | padded (width : Nat) (signed : Bool) (value : Int)
  | text (value : String)
  /-- The bytes of a text that are not UTF-8. -/
  | garbled (spelling : Bytes)
  | bytes (value : Bytes)
  | list (items : List Datum)
  | map (entries : List (Datum × Datum))
  /-- A well-formed value of a kind that no type is read from, such as a fraction. -/
  | foreign
  /-- A well-formed spelling that no value has, such as a number without bound. It can be passed
  over, but it can neither be read nor set aside. -/
  | unreadable
  deriving Inhabited

namespace Datum

/-- A map from field names to data, in the order given. -/
def record (fields : List (String × Datum)) : Datum :=
  .map (fields.map fun field => (.text field.1, field.2))

/-- A variant: its name under the tag, and then its fields. -/
def variant (tag name : String) (fields : List (String × Datum)) : Datum :=
  record ((tag, .text name) :: fields)

/-- A field that is left out when it has no value. -/
def optionalField {α : Type} (name : String) (write : α → Datum) :
    Option α → List (String × Datum)
  | none => []
  | some value => [(name, write value)]

/-- The position that a number stands for where a name is expected. It has no sign; and when it
had been set aside, it is spelled in one byte or in eight. -/
def position? : Encoding → Datum → Option Nat
  | .packed, .int value => if 0 ≤ value then some value.toNat else none
  | .packed, .padded _ false value => some value.toNat
  | .buffered, .int value =>
    if 0 ≤ value ∧ (value < 0x100 ∨ 0x100000000 ≤ value) then some value.toNat else none
  | .buffered, .padded width false value =>
    if width = 1 ∨ width = 8 then some value.toNat else none
  | _, _ => none

mutual
/-- Whether a datum can be set aside: nothing in it is unreadable. -/
def isReadable : Datum → Bool
  | .unreadable => false
  | .list items => areReadable items
  | .map entries => areEntriesReadable entries
  | _ => true

/-- Whether all items of a list can be set aside. -/
def areReadable : List Datum → Bool
  | [] => true
  | item :: rest => isReadable item && areReadable rest

/-- Whether all entries of a map can be set aside. -/
def areEntriesReadable : List (Datum × Datum) → Bool
  | [] => true
  | (key, value) :: rest => isReadable key && isReadable value && areEntriesReadable rest
end

/-- The items of a datum that is read as a list. -/
def items? (encoding : Encoding) : Datum → Option (List Datum)
  | .list items => some items
  | .bytes value =>
    if encoding = .packed then some (value.map fun byte => .int byte.toNat) else none
  | _ => none

/-- The items of a datum that is read as a list of at most so many. A byte string may be longer: its
end is passed over. -/
def itemsUpTo? (encoding : Encoding) (most : Nat) : Datum → Option (List Datum)
  | .list items => if items.length ≤ most then some items else none
  | datum => (datum.items? encoding).map (List.take most)

/-- What a map holds for a text key, where the last of several entries counts. -/
def get? (key : String) : Datum → Option Datum
  | .map entries =>
    entries.foldl (fun found entry =>
      match entry.1 with
      | .text name => if name = key then some entry.2 else found
      | _ => found) none
  | _ => none

end Datum
end Lockstep
