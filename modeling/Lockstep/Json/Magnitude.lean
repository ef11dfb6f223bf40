/-!
# Numbers within bounds

A number with a fraction or an exponent stands for a double-precision value, and there is none from
2¹⁰²⁴ on. Its digits are gathered into a significand below 2⁶⁴ and a decimal exponent; the digits
that no longer fit are dropped, and of those before the point each one raises the exponent. The
significand and the power of ten are then rounded each, and their product is rounded once more.
-/

set_option autoImplicit false

namespace Lockstep.Json

/-- A significand and the power of ten that it is multiplied by. -/
structure Magnitude where
  significand : Nat
  exponent : Int
  deriving DecidableEq, Inhabited

namespace Magnitude

/-- The significand with one more digit, if it still fits. -/
def extended? (significand : Nat) (digit : Char) : Option Nat :=
  let longer := 10 * significand + (digit.toNat - 48)
  if longer < 0x10000000000000000 then some longer else none

/-- The digits before the point, after those that were gathered already. -/
def ofWhole : List Char → Nat → Magnitude
  | [], significand => ⟨significand, 0⟩
  | digit :: rest, significand =>
    match extended? significand digit with
    | some longer => ofWhole rest longer
    | none => ⟨significand, rest.length + 1⟩

/-- The digits after the point are gathered too. -/
def withFraction : List Char → Magnitude → Magnitude
  | [], magnitude => magnitude
  | digit :: rest, magnitude =>
    match extended? magnitude.significand digit with
    | some longer => withFraction rest ⟨longer, magnitude.exponent - 1⟩
    | none => magnitude

/-- A number rounded to the nearest one of fifty-three binary digits, a tie to the even one. -/
def rounded (number : Nat) : Nat :=
  let unit := 1 <<< (number.log2 - 52)
  let below := number / unit
  let above := 2 * (number % unit)
  if unit < above ∨ (unit = above ∧ below % 2 = 1) then (below + 1) * unit else below * unit

/-- Whether a magnitude has a double-precision value. -/
def isBounded (magnitude : Magnitude) : Bool :=
  if magnitude.significand = 0 ∨ magnitude.exponent < 0 then true
  else if 308 < magnitude.exponent then false
  else
    rounded magnitude.significand * rounded (Nat.pow 10 magnitude.exponent.toNat) <
      1 <<< 1024 - 1 <<< 970

/-- The greatest exponent that is taken as it is given. -/
def greatestExponent : Nat := 0x7FFFFFFF

/-- Whether a magnitude has a value once its exponent is raised or lowered by a number. A number
beyond all bounds settles the matter. -/
def isBoundedAt (magnitude : Magnitude) (lowered : Bool) (number : Nat) : Bool :=
  if greatestExponent < number then lowered || magnitude.significand = 0
  else
    isBounded
      { magnitude with
        exponent := if lowered then magnitude.exponent - number else magnitude.exponent + number }

end Magnitude

end Lockstep.Json
