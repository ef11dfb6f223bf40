/-!
# Byte strings

A byte string is a list of bytes. A reader takes a byte string and gives back a value
together with the bytes it left unread, so that "what was written, followed by anything,
reads back" can be said of every format in one shape.

* `takeExactly` cuts off a known number of bytes, or fails;
* `littleEndian` and `bigEndian` spell a number in a fixed number of bytes, and
  `readLittle` and `readBig` read it back.

The laws `readLittle_littleEndian` and `readBig_bigEndian` hold whatever bytes follow.
-/

set_option autoImplicit false

namespace Lockstep

/-- A byte string. -/
abbrev Bytes := List UInt8

namespace Bytes

/-! ## Cutting -/

/-- The first `count` bytes and the rest, or nothing when there are fewer. -/
def takeExactly (count : Nat) (bytes : Bytes) : Option (Bytes × Bytes) :=
  let head := bytes.take count
  if head.length = count then some (head, bytes.drop count) else none

theorem takeExactly_append (head rest : Bytes) :
    takeExactly head.length (head ++ rest) = some (head, rest) := by
  simp [takeExactly]

theorem takeExactly_eq_none_iff {count : Nat} {bytes : Bytes} :
    takeExactly count bytes = none ↔ bytes.length < count := by
  simp only [takeExactly, List.length_take]
  split <;> simp <;> omega

theorem eq_append_of_takeExactly {count : Nat} {bytes head rest : Bytes}
    (taken : takeExactly count bytes = some (head, rest)) :
    bytes = head ++ rest ∧ head.length = count := by
  simp only [takeExactly] at taken
  obtain ⟨whole, same⟩ := Option.ite_none_right_eq_some.mp taken
  obtain ⟨rfl, rfl⟩ := Prod.mk.inj (Option.some.inj same)
  exact ⟨(List.take_append_drop count bytes).symm, whole⟩

/-! ## Numbers, least significant byte first -/

/-- The `width` bytes of a number, least significant first; higher digits are dropped. -/
def littleEndian : Nat → Nat → Bytes
  | 0, _ => []
  | width + 1, number => UInt8.ofNat (number % 256) :: littleEndian width (number / 256)

/-- How many numbers can be spelled in so many bytes. -/
def capacity : Nat → Nat
  | 0 => 1
  | width + 1 => 256 * capacity width

/-- The number whose bytes, least significant first, are given. -/
def ofLittleEndian : Bytes → Nat
  | [] => 0
  | byte :: rest => byte.toNat + 256 * ofLittleEndian rest

@[simp] theorem length_littleEndian (width number : Nat) :
    (littleEndian width number).length = width := by
  induction width generalizing number with
  | zero => rfl
  | succ width inductionHypothesis => simp [littleEndian, inductionHypothesis]

theorem ofLittleEndian_littleEndian (width number : Nat) :
    ofLittleEndian (littleEndian width number) = number % capacity width := by
  induction width generalizing number with
  | zero => simp [littleEndian, ofLittleEndian, capacity, Nat.mod_one]
  | succ width inductionHypothesis =>
    have digit : (UInt8.ofNat (number % 256)).toNat = number % 256 := by
      simp [UInt8.toNat_ofNat']
    simp only [littleEndian, ofLittleEndian, digit, inductionHypothesis]
    rw [capacity, Nat.mod_mul]

theorem ofLittleEndian_lt (bytes : Bytes) : ofLittleEndian bytes < capacity bytes.length := by
  induction bytes with
  | nil => exact Nat.one_pos
  | cons byte rest inductionHypothesis =>
    have small : byte.toNat < 256 := byte.toNat_lt
    simp only [ofLittleEndian, List.length_cons, capacity]
    omega

theorem littleEndian_ofLittleEndian (bytes : Bytes) :
    littleEndian bytes.length (ofLittleEndian bytes) = bytes := by
  induction bytes with
  | nil => rfl
  | cons byte rest inductionHypothesis =>
    have small : byte.toNat < 256 := byte.toNat_lt
    have low : (byte.toNat + 256 * ofLittleEndian rest) % 256 = byte.toNat := by omega
    have high : (byte.toNat + 256 * ofLittleEndian rest) / 256 = ofLittleEndian rest := by omega
    simp only [List.length_cons, littleEndian, ofLittleEndian, low, high, inductionHypothesis,
      UInt8.ofNat_toNat]

/-- The number in the next `width` bytes, least significant first. -/
def readLittle (width : Nat) (bytes : Bytes) : Option (Nat × Bytes) :=
  (takeExactly width bytes).map fun (head, rest) => (ofLittleEndian head, rest)

theorem readLittle_littleEndian (width number : Nat) (rest : Bytes)
    (fits : number < capacity width) :
    readLittle width (littleEndian width number ++ rest) = some (number, rest) := by
  have taken := takeExactly_append (littleEndian width number) rest
  rw [length_littleEndian] at taken
  simp [readLittle, taken, ofLittleEndian_littleEndian, Nat.mod_eq_of_lt fits]

/-! ## Numbers, most significant byte first -/

/-- The `width` bytes of a number, most significant first; higher digits are dropped. -/
def bigEndian (width number : Nat) : Bytes :=
  (littleEndian width number).reverse

@[simp] theorem length_bigEndian (width number : Nat) :
    (bigEndian width number).length = width := by
  simp [bigEndian]

/-- The number in the next `width` bytes, most significant first. -/
def readBig (width : Nat) (bytes : Bytes) : Option (Nat × Bytes) :=
  (takeExactly width bytes).map fun (head, rest) => (ofLittleEndian head.reverse, rest)

theorem readBig_bigEndian (width number : Nat) (rest : Bytes) (fits : number < capacity width) :
    readBig width (bigEndian width number ++ rest) = some (number, rest) := by
  have taken := takeExactly_append (bigEndian width number) rest
  rw [length_bigEndian] at taken
  rw [readBig, taken]
  simp [bigEndian, ofLittleEndian_littleEndian, Nat.mod_eq_of_lt fits]

end Bytes

end Lockstep
