import Lockstep.Datum

/-!
# Data in MessagePack

`Packed.write` spells a datum in MessagePack in the shortest way: a number that is not negative in
the smallest unsigned form, a negative one in the smallest signed form, and every length in the
smallest form that holds it. Only a `Datum.padded` keeps the form that it was read in.

`Packed.read` accepts every spelling of the format and gives back the bytes that follow. A number
in a longer spelling is read as `Datum.padded`, a text that is not UTF-8 as `Datum.garbled`, and
fractions and extensions as `Datum.foreign`.

Containers may be nested 1023 deep when they are read.
-/

set_option autoImplicit false

namespace Lockstep.Packed

open Bytes (bigEndian capacity readBig takeExactly)

/-! ## Writing -/

/-- A length after the marker for its size: one byte below `small`, or a marker and one, two or
four bytes. A form with no one-byte marker begins with two bytes. -/
def writeLength (small base : Nat) (markers : Option Nat × Nat × Nat) (length : Nat) : Bytes :=
  if length < small then [UInt8.ofNat (base + length)]
  else
    match markers with
    | (some one, two, four) =>
      if length < 0x100 then UInt8.ofNat one :: bigEndian 1 length
      else if length < 0x10000 then UInt8.ofNat two :: bigEndian 2 length
      else UInt8.ofNat four :: bigEndian 4 length
    | (none, two, four) =>
      if length < 0x10000 then UInt8.ofNat two :: bigEndian 2 length
      else UInt8.ofNat four :: bigEndian 4 length

/-- The length of a text. -/
def writeTextLength : Nat → Bytes := writeLength 0x20 0xA0 (some 0xD9, 0xDA, 0xDB)

/-- The length of a byte string, which has no one-byte form. -/
def writeBytesLength : Nat → Bytes := writeLength 0 0 (some 0xC4, 0xC5, 0xC6)

/-- The length of a list. -/
def writeListLength : Nat → Bytes := writeLength 0x10 0x90 (none, 0xDC, 0xDD)

/-- The number of entries of a map. -/
def writeMapLength : Nat → Bytes := writeLength 0x10 0x80 (none, 0xDE, 0xDF)

/-- A number that is not negative. -/
def writeNatural (value : Nat) : Bytes :=
  if value < 0x80 then [UInt8.ofNat value]
  else if value < 0x100 then 0xCC :: bigEndian 1 value
  else if value < 0x10000 then 0xCD :: bigEndian 2 value
  else if value < 0x100000000 then 0xCE :: bigEndian 4 value
  else 0xCF :: bigEndian 8 value

/-- The number one greater than `below`, with its sign turned round. -/
def writeNegative (below : Nat) : Bytes :=
  if below < 0x20 then [UInt8.ofNat (0xFF - below)]
  else if below < 0x80 then 0xD0 :: bigEndian 1 (0xFF - below)
  else if below < 0x8000 then 0xD1 :: bigEndian 2 (0xFFFF - below)
  else if below < 0x80000000 then 0xD2 :: bigEndian 4 (0xFFFFFFFF - below)
  else 0xD3 :: bigEndian 8 (0xFFFFFFFFFFFFFFFF - below)

/-- A whole number. -/
def writeInt : Int → Bytes
  | .ofNat value => writeNatural value
  | .negSucc below => writeNegative below

/-- A whole number in so many bytes, with or without a sign. -/
def writePadded (width : Nat) (signed : Bool) (value : Int) : Bytes :=
  let marker := (if signed then 0xD0 else 0xCC) + width.log2
  UInt8.ofNat marker :: bigEndian width (value % capacity width).toNat

/-- A text. -/
def writeText (value : String) : Bytes :=
  let spelling := Bytes.ofText value
  writeTextLength spelling.length ++ spelling

mutual
/-- The spelling of a datum. -/
def write : Datum → Bytes
  | .null => [0xC0]
  | .foreign | .unreadable => [0xCA, 0, 0, 0, 0]
  | .bool false => [0xC2]
  | .bool true => [0xC3]
  | .int value => writeInt value
  | .padded width signed value => writePadded width signed value
  | .text value => writeText value
  | .garbled spelling => writeTextLength spelling.length ++ spelling
  | .bytes value => writeBytesLength value.length ++ value
  | .list items => writeListLength items.length ++ writeItems items
  | .map entries => writeMapLength entries.length ++ writeEntries entries

/-- The spellings of the items of a list, one after the other. -/
def writeItems : List Datum → Bytes
  | [] => []
  | item :: rest => write item ++ writeItems rest

/-- The spellings of the entries of a map, each key before its value. -/
def writeEntries : List (Datum × Datum) → Bytes
  | [] => []
  | (key, value) :: rest => write key ++ (write value ++ writeEntries rest)
end

/-! ## Reading -/

/-- A signed number whose two's-complement digits are given. -/
def signed (width value : Nat) : Int :=
  if 2 * value < capacity width then value else (value : Int) - capacity width

/-- Whether a number has its shortest spelling when it is
spelled in so many bytes after a marker. -/
def isShortest (width : Nat) (signed : Bool) (value : Int) : Bool :=
  (writeInt value).length = width + 1 ∧ (signed ↔ value < 0)

/-- The datum of a number in a fixed width. -/
def numberIn (width : Nat) (signed : Bool) (value : Int) : Datum :=
  if isShortest width signed value then .int value else .padded width signed value

/-- A number in a fixed width. -/
def readNatural (width : Nat) (bytes : Bytes) : Option (Datum × Bytes) :=
  (readBig width bytes).map fun (value, rest) => (numberIn width false value, rest)

/-- A signed number in a fixed width. -/
def readSigned (width : Nat) (bytes : Bytes) : Option (Datum × Bytes) :=
  (readBig width bytes).map fun (value, rest) => (numberIn width true (signed width value), rest)

/-- A text of a known length. -/
def readText (length : Nat) (bytes : Bytes) : Option (Datum × Bytes) :=
  (takeExactly length bytes).map fun (spelling, rest) =>
    match spelling.text? with
    | some value => (.text value, rest)
    | none => (.garbled spelling, rest)

/-- A byte string of a known length. -/
def readBytes (length : Nat) (bytes : Bytes) : Option (Datum × Bytes) :=
  (takeExactly length bytes).map fun (value, rest) => (.bytes value, rest)

/-- A value that only has a length. -/
def skip (length : Nat) (bytes : Bytes) : Option (Datum × Bytes) :=
  (takeExactly length bytes).map fun (_, rest) => (.foreign, rest)

/-- A length in a fixed width, and then what it is the length of. -/
def readWithLength (width : Nat) (body : Nat → Bytes → Option (Datum × Bytes)) (bytes : Bytes) :
    Option (Datum × Bytes) :=
  (readBig width bytes).bind fun (length, rest) => body length rest

/-- So many data one after the other, put in front of `reversed` turned round. -/
def readMany (readOne : Bytes → Option (Datum × Bytes)) :
    Nat → Bytes → List Datum → Option (List Datum × Bytes)
  | 0, bytes, reversed => some (reversed.reverse, bytes)
  | count + 1, bytes, reversed =>
    match readOne bytes with
    | none => none
    | some (item, rest) => readMany readOne count rest (item :: reversed)

/-- So many pairs one after the other, put in front of `reversed` turned round. -/
def readPairs (readOne : Bytes → Option (Datum × Bytes)) :
    Nat → Bytes → List (Datum × Datum) → Option (List (Datum × Datum) × Bytes)
  | 0, bytes, reversed => some (reversed.reverse, bytes)
  | count + 1, bytes, reversed =>
    match readOne bytes with
    | none => none
    | some (key, rest) =>
      match readOne rest with
      | none => none
      | some (value, rest) => readPairs readOne count rest ((key, value) :: reversed)

/-- The datum at the start of a byte string, with containers nested less than `depth` deep. -/
def readNested : Nat → Bytes → Option (Datum × Bytes)
  | _, [] => none
  | 0, _ => none
  | depth + 1, marker :: bytes =>
    let list (length : Nat) (bytes : Bytes) : Option (Datum × Bytes) :=
      if depth = 0 then none
      else (readMany (readNested depth) length bytes []).map fun (items, rest) => (.list items, rest)
    let map (length : Nat) (bytes : Bytes) : Option (Datum × Bytes) :=
      if depth = 0 then none
      else
        (readPairs (readNested depth) length bytes []).map fun (entries, rest) => (.map entries, rest)
    let extension (length : Nat) (bytes : Bytes) : Option (Datum × Bytes) :=
      if depth = 0 then none else skip (length + 1) bytes
    let code := marker.toNat
    if code < 0x80 then some (.int code, bytes)
    else if code < 0x90 then map (code - 0x80) bytes
    else if code < 0xA0 then list (code - 0x90) bytes
    else if code < 0xC0 then readText (code - 0xA0) bytes
    else if 0xE0 ≤ code then some (.int ((code : Int) - 0x100), bytes)
    else
      match code with
      | 0xC0 => some (.null, bytes)
      | 0xC2 => some (.bool false, bytes)
      | 0xC3 => some (.bool true, bytes)
      | 0xC4 => readWithLength 1 readBytes bytes
      | 0xC5 => readWithLength 2 readBytes bytes
      | 0xC6 => readWithLength 4 readBytes bytes
      | 0xC7 => readWithLength 1 extension bytes
      | 0xC8 => readWithLength 2 extension bytes
      | 0xC9 => readWithLength 4 extension bytes
      | 0xCA => skip 4 bytes
      | 0xCB => skip 8 bytes
      | 0xCC => readNatural 1 bytes
      | 0xCD => readNatural 2 bytes
      | 0xCE => readNatural 4 bytes
      | 0xCF => readNatural 8 bytes
      | 0xD0 => readSigned 1 bytes
      | 0xD1 => readSigned 2 bytes
      | 0xD2 => readSigned 4 bytes
      | 0xD3 => readSigned 8 bytes
      | 0xD4 => extension 1 bytes
      | 0xD5 => extension 2 bytes
      | 0xD6 => extension 4 bytes
      | 0xD7 => extension 8 bytes
      | 0xD8 => extension 16 bytes
      | 0xD9 => readWithLength 1 readText bytes
      | 0xDA => readWithLength 2 readText bytes
      | 0xDB => readWithLength 4 readText bytes
      | 0xDC => readWithLength 2 list bytes
      | 0xDD => readWithLength 4 list bytes
      | 0xDE => readWithLength 2 map bytes
      | 0xDF => readWithLength 4 map bytes
      | _ => none

/-- The datum at the start of a byte string, and the bytes after it. -/
def read (bytes : Bytes) : Option (Datum × Bytes) := readNested 1024 bytes

end Lockstep.Packed
