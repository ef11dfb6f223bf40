import Lockstep.Bytes

/-!
# Byte strings and text

`String.utf8` spells a text in UTF-8 and `Bytes.text?` reads it back, refusing what no text
is spelled as. `Bytes.hex` and `Bytes.ofHex?` are the two-digit hexadecimal notation, in
lower case when written and in either case when read.
-/

set_option autoImplicit false

namespace Lockstep

/-- The UTF-8 spelling of a text. -/
def Bytes.ofText (text : String) : Bytes := text.toByteArray.data.toList

/-- The text that a byte string spells in UTF-8, if it spells one. -/
def Bytes.text? (bytes : Bytes) : Option String := String.fromUTF8? ⟨bytes.toArray⟩

@[simp] theorem Bytes.text?_ofText (text : String) : Bytes.text? (Bytes.ofText text) = some text := by
  have same : (⟨text.toByteArray.data.toList.toArray⟩ : ByteArray) = text.toByteArray := by
    simp
  simp only [Bytes.text?, Bytes.ofText, same, String.fromUTF8?]
  rw [dif_pos text.isValidUTF8]
  rfl

/-- One hexadecimal digit in lower case. -/
def hexDigit (value : Nat) : Char :=
  if value < 10 then Char.ofNat (48 + value) else Char.ofNat (87 + value)

/-- The value of a hexadecimal digit of either case. -/
def hexValue? (digit : Char) : Option Nat :=
  let code := digit.toNat
  if 48 ≤ code ∧ code ≤ 57 then some (code - 48)
  else if 97 ≤ code ∧ code ≤ 102 then some (code - 87)
  else if 65 ≤ code ∧ code ≤ 70 then some (code - 55)
  else none

/-- Two lower-case hexadecimal digits for each byte. -/
def Bytes.hex (bytes : Bytes) : String :=
  String.ofList (bytes.flatMap fun byte => [hexDigit (byte.toNat / 16), hexDigit (byte.toNat % 16)])

/-- The bytes written as pairs of hexadecimal digits, put in front of `reversed` turned round. -/
def Bytes.ofHexDigits? : List Char → Bytes → Option Bytes
  | [], reversed => some reversed.reverse
  | [_], _ => none
  | high :: low :: rest, reversed =>
    match hexValue? high, hexValue? low with
    | some upper, some lower => Bytes.ofHexDigits? rest (UInt8.ofNat (16 * upper + lower) :: reversed)
    | _, _ => none

/-- The byte string that a hexadecimal text spells. -/
def Bytes.ofHex? (text : String) : Option Bytes := Bytes.ofHexDigits? text.toList []

end Lockstep
