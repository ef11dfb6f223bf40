/-!
# Numerals

Hexadecimal numbers carry the mark `0x` and lower-case digits. A behavior or an opcode is
always shown with at least four of them, a sound with as many as it needs.
-/

set_option autoImplicit false

namespace Lockstep

/-- A text brought to a least width by repeating a filler in front. -/
def padLeft (width : Nat) (filler : Char) (text : String) : String :=
  String.ofList (List.replicate (width - text.length) filler) ++ text

/-- A number in hexadecimal after the mark `0x`, with no leading zeros. -/
def hexNumeral (number : Nat) : String := "0x" ++ String.ofList (Nat.toDigits 16 number)

/-- A sixteen-bit code in hexadecimal after the mark `0x`, with at least four digits. -/
def codeNumeral (code : UInt16) : String :=
  "0x" ++ padLeft 4 '0' (String.ofList (Nat.toDigits 16 code.toNat))

/-- A code is always shown with four digits. -/
theorem length_codeNumeral (code : UInt16) : (codeNumeral code).length = 6 := by
  have few : (Nat.toDigits 16 code.toNat).length ≤ 4 :=
    (Nat.length_toDigits_le_iff (by decide) (by decide)).mpr code.toNat_lt
  simp only [codeNumeral, padLeft, String.length_append, String.length_ofList, List.length_replicate]
  rw [Nat.sub_add_cancel few]
  rfl

example : codeNumeral 2 = "0x0002" := by decide +kernel

end Lockstep
