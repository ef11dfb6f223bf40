import Lockstep.Datum.Enumeration
import Lockstep.Identity

/-!
# Values as data

A type is `Written` when its values can be turned into data and read back. Reading says nothing
about why it failed.

Numbers are read only within the range of their type, and never from a text or from a fraction.
A structure is a map from its field names (`Datum.fields?`): unknown names are passed over and a
repeated one is an error. It may also be a list of its fields in order; fields at the end that
have a default may then be missing, and nothing may follow. A variant is a map that names it
under a tag, wherever the tag stands, or a list that begins with the name (`Datum.variant?`). Its
fields are read as `Encoding.buffered`.
-/

set_option autoImplicit false

namespace Lockstep

/-- Values with a form as data. -/
class Written (α : Type) where
  write : α → Datum
  read : Encoding → Datum → Option α

/-- Reading gives back what was written. -/
class LawfulWritten (α : Type) [Written α] : Prop where
  read_write : ∀ (encoding : Encoding) (value : α),
    Written.read encoding (Written.write value) = some value

namespace Datum

/-! ## Numbers -/

/-- A whole number in a range that ends before `high`. -/
def intWithin? (low high : Int) : Datum → Option Int
  | .int value | .padded _ _ value => if low ≤ value ∧ value < high then some value else none
  | _ => none

end Datum

instance : Written UInt8 where
  write value := .int value.toNat
  read _ datum := (datum.intWithin? 0 0x100).map fun value => UInt8.ofNat value.toNat

instance : Written UInt16 where
  write value := .int value.toNat
  read _ datum := (datum.intWithin? 0 0x10000).map fun value => UInt16.ofNat value.toNat

instance : Written UInt32 where
  write value := .int value.toNat
  read _ datum := (datum.intWithin? 0 0x100000000).map fun value => UInt32.ofNat value.toNat

instance : Written UInt64 where
  write value := .int value.toNat
  read _ datum :=
    (datum.intWithin? 0 0x10000000000000000).map fun value => UInt64.ofNat value.toNat

instance : Written Int16 where
  write value := .int value.toInt
  read _ datum := (datum.intWithin? (-0x8000) 0x8000).map Int16.ofInt

instance : Written Int32 where
  write value := .int value.toInt
  read _ datum := (datum.intWithin? (-0x80000000) 0x80000000).map Int32.ofInt

/-! ## Other plain values -/

instance : Written Bool where
  write := .bool
  read _
    | .bool value => some value
    | _ => none

instance : Written String where
  write := .text
  read _
    | .text value => some value
    | .bytes value => value.text?
    | _ => none

instance {α : Type} [Written α] : Written (Option α) where
  write
    | none => .null
    | some value => Written.write value
  read encoding
    | .null => some none
    | datum => (Written.read encoding datum).map some

instance {α : Type} [Written α] : Written (List α) where
  write values := .list (values.map Written.write)
  read encoding datum := (datum.items? encoding).bind (List.mapM (Written.read encoding))

instance {α : Type} {count : Nat} [Written α] : Written (Vector α count) where
  write values := .list (values.toList.map Written.write)
  read encoding datum := do
    let items ← datum.itemsUpTo? encoding count
    let values ← items.mapM (Written.read encoding)
    if exact : values.length = count then
      some ⟨values.toArray, by simpa using exact⟩
    else none

instance : Written EntityId where
  write id := Written.write id.number
  read encoding datum := (Written.read encoding datum).map EntityId.mk

instance : Written ClientId where
  write id := Written.write id.number
  read encoding datum := (Written.read encoding datum).map ClientId.mk

instance : Written ChannelId where
  write id := Written.write id.number
  read encoding datum := (Written.read encoding datum).map ChannelId.mk

/-- A byte string read from bytes, from a text, or from a list of byte values. -/
def Datum.blob? : Datum → Option Bytes
  | .bytes value | .garbled value => some value
  | .text value => some (Bytes.ofText value)
  | .list items => items.mapM (Written.read .packed)
  | _ => none

/-! ## Maps with numbers as keys -/

/-- The number a text spells with decimal digits, no sign and no leading zero. -/
def decimal? (text : String) : Option Nat :=
  match text.toList with
  | [] => none
  | '0' :: _ :: _ => none
  | digits =>
    if digits.all Char.isDigit then
      some (digits.foldl (fun value digit => 10 * value + (digit.toNat - 48)) 0)
    else none

/-- A key is a number, or in a textual map the digits of one. -/
def Datum.key? (encoding : Encoding) : Datum → Option Datum
  | .int value | .padded _ _ value => some (.int value)
  | .text digits => if encoding = .json then (decimal? digits).map fun value => .int value else none
  | _ => none

instance {κ ν : Type} [Ord κ] [Std.TransOrd κ] [Std.LawfulEqOrd κ] [Written κ] [Written ν] :
    Written (Table κ ν) where
  write table := .map (table.entries.map fun entry => (Written.write entry.1, Written.write entry.2))
  read encoding
    | .map entries => do
      let pairs ← entries.mapM fun entry => do
        let key ← Written.read encoding (← entry.1.key? encoding)
        let value ← Written.read encoding entry.2
        some (key, value)
      some (Table.ofList pairs)
    | _ => none

/-! ## Structures -/

/-- The fields found in a datum: how they are read, whether they were given by position, and the
data of those that were there. -/
structure Fields where
  encoding : Encoding
  positional : Bool
  present : List (String × Datum)

namespace Datum

/-- The field that a key names: `some none` for a name that is not one of the fields, and
nothing for a key that cannot be a name. -/
def fieldName? (encoding : Encoding) (names : List String) : Datum → Option (Option String)
  | .text name => some (names.find? (· == name))
  | .bytes name => some (name.text?.bind fun name => names.find? (· == name))
  | .garbled _ => some none
  | key => (key.position? encoding).map fun position => names[position]?

/-- The fields among the entries of a map, added to those found before. -/
def collectFields? (encoding : Encoding) (names : List String) :
    List (Datum × Datum) → List (String × Datum) → Option (List (String × Datum))
  | [], found => some found
  | (key, value) :: rest, found =>
    match fieldName? encoding names key with
    | none => none
    | some none => collectFields? encoding names rest found
    | some (some name) =>
      if found.any (·.1 == name) then none
      else collectFields? encoding names rest ((name, value) :: found)

/-- The fields of a structure with the given field names. -/
def fields? (encoding : Encoding) (names : List String) : Datum → Option Fields
  | .map entries => (collectFields? encoding names entries []).map (Fields.mk encoding false)
  | datum =>
    (datum.itemsUpTo? encoding names.length).map fun items => ⟨encoding, true, names.zip items⟩

end Datum

namespace Fields

variable {α : Type}

/-- The datum of a field. -/
def find? (fields : Fields) (name : String) : Option Datum :=
  (fields.present.find? (·.1 == name)).map Prod.snd

/-- A field that has to be there. -/
def required [Written α] (fields : Fields) (name : String) : Option α :=
  (fields.find? name).bind (Written.read fields.encoding)

/-- A field with a default. -/
def defaulted [Written α] (fields : Fields) (name : String) (default : α) : Option α :=
  match fields.find? name with
  | none => some default
  | some datum => Written.read fields.encoding datum

/-- A field that may be missing from a map, but not from a list. -/
def optional [Written α] (fields : Fields) (name : String) : Option (Option α) :=
  match fields.find? name with
  | none => if fields.positional then none else some none
  | some datum => Written.read fields.encoding datum

end Fields

/-! ## Variants -/

namespace Datum

/-- Whether a map key is the given text. -/
def isKey (name : String) : Datum → Bool
  | .text other => other == name
  | .bytes other => other == Bytes.ofText name
  | _ => false

/-- The variant that a tag names. -/
def variantName? (encoding : Encoding) (names : List String) : Datum → Option String
  | .text name => names.find? (· == name)
  | .bytes name => name.text?.bind fun name => names.find? (· == name)
  | label => (label.position? encoding).bind fun position => names[position]?

/-- A variant's label and the datum that holds its fields. -/
def labelled? (tag : String) : Datum → Option (Datum × Datum)
  | .map entries =>
    match entries.filter fun entry => entry.1.isKey tag with
    | [(_, label)] => some (label, .map (entries.filter fun entry => !entry.1.isKey tag))
    | _ => none
  | .list (label :: items) => some (label, .list items)
  | _ => none

/-- The name of a variant and the datum that holds its fields. Because the name may come after the
fields, these are set aside: they have to be readable whether the variant has them or not. -/
def variant? (encoding : Encoding) (tag : String) (names : List String) (datum : Datum) :
    Option (String × Datum) := do
  let (label, content) ← datum.labelled? tag
  let name ← variantName? encoding names label
  if content.isReadable then some (name, content) else none

/-- Whether a datum can hold the fields of a variant that has none. -/
def isUnit : Datum → Bool
  | .map _ => true
  | .list [] => true
  | _ => false

end Datum
end Lockstep
