import Lockstep.Json.Magnitude
import Lockstep.Json.Printer

/-!
# Reading JSON text

The reader accepts the grammar of RFC 8259 and nothing around it but blanks. A whole number that
fits in sixty-four bits, with or without a sign, becomes an integer. Every other number, minus
zero among them, is a fraction, which no type is read from.

Some spellings follow the grammar and yet have no value: a string with half of a surrogate pair,
a number that is too large to be a fraction, and a container inside 127 others. They become
`Datum.unreadable`, because they do no harm where they are passed over.
-/

set_option autoImplicit false

namespace Lockstep.Json

/-- A text that has been read up to some point. -/
abbrev Rest := List Char

/-- Pass over blanks. -/
def skipBlanks (text : Rest) : Rest :=
  text.dropWhile fun character =>
    character == ' ' || character == '\n' || character == '\t' || character == '\r'

/-! ## Strings -/

/-- The number that four hexadecimal digits spell. -/
def codeUnit? (first second third fourth : Char) : Option Nat := do
  let high ← hexValue? first
  let upper ← hexValue? second
  let lower ← hexValue? third
  let low ← hexValue? fourth
  some (4096 * high + 256 * upper + 16 * lower + low)

/-- Whether a code unit is half of a surrogate pair. -/
def isSurrogate (unit : Nat) : Bool := 0xD800 ≤ unit && unit < 0xE000

/-- The character of a pair of surrogates. -/
def surrogatePair? (high low : Nat) : Option Char :=
  if 0xD800 ≤ high ∧ high < 0xDC00 ∧ 0xDC00 ≤ low ∧ low < 0xE000 then
    some (Char.ofNat (0x10000 + 0x400 * (high - 0xD800) + (low - 0xDC00)))
  else none

/-- The characters of a string, when its code units are given last first and with them the
characters that follow. A surrogate that is not one of a pair leaves it without a value. -/
def charactersOf? : List Nat → List Char → Option (List Char)
  | [], after => some after
  | [unit], after => if isSurrogate unit then none else some (Char.ofNat unit :: after)
  | unit :: before :: earlier, after =>
    if isSurrogate unit then
      match surrogatePair? before unit with
      | some character => charactersOf? earlier (character :: after)
      | none => none
    else charactersOf? (before :: earlier) (Char.ofNat unit :: after)

/-- The code units of a string after its opening mark, put in front of `reversed` turned round. -/
def readUnits : Rest → List Nat → Option (List Nat × Rest)
  | '"' :: rest, reversed => some (reversed, rest)
  | '\\' :: 'u' :: first :: second :: third :: fourth :: rest, reversed =>
    match codeUnit? first second third fourth with
    | some unit => readUnits rest (unit :: reversed)
    | none => none
  | '\\' :: escaped :: rest, reversed =>
    match escaped with
    | '"' | '\\' | '/' => readUnits rest (escaped.toNat :: reversed)
    | 'b' => readUnits rest (0x08 :: reversed)
    | 'f' => readUnits rest (0x0C :: reversed)
    | 'n' => readUnits rest (0x0A :: reversed)
    | 'r' => readUnits rest (0x0D :: reversed)
    | 't' => readUnits rest (0x09 :: reversed)
    | _ => none
  | character :: rest, reversed =>
    if character = '\\' ∨ character.toNat < 0x20 then none
    else readUnits rest (character.toNat :: reversed)
  | [], _ => none

/-- A string after its opening mark. -/
def readString (text : Rest) : Option (Datum × Rest) :=
  (readUnits text []).map fun (units, rest) =>
    match charactersOf? units [] with
    | some characters => (.text (String.ofList characters), rest)
    | none => (.unreadable, rest)

/-! ## Numbers -/

/-- At least one digit. -/
def someDigits? (text : Rest) : Option (List Char × Rest) :=
  match text.span Char.isDigit with
  | ([], _) => none
  | found => some found

/-- The digits of a fraction, if a point follows. -/
def readFraction? : Rest → Option (Option (List Char) × Rest)
  | '.' :: rest => (someDigits? rest).map fun (digits, rest) => (some digits, rest)
  | rest => some (none, rest)

/-- An exponent, if one follows: whether it is negative, and its digits. -/
def readExponent? : Rest → Option (Option (Bool × List Char) × Rest)
  | mark :: rest =>
    if mark = 'e' ∨ mark = 'E' then
      let (lowered, unsigned) := match rest with
        | '+' :: rest => (false, rest)
        | '-' :: rest => (true, rest)
        | _ => (false, rest)
      (someDigits? unsigned).map fun (digits, rest) => (some (lowered, digits), rest)
    else some (none, mark :: rest)
  | [] => some (none, [])

/-- The number that digits spell. -/
def numberOf (digits : List Char) : Nat :=
  digits.foldl (fun value digit => 10 * value + (digit.toNat - 48)) 0

/-- A number that is no integer, by its parts. -/
def fraction (whole : List Char) (after : Option (List Char)) (exponent : Option (Bool × List Char)) :
    Datum :=
  let magnitude := (Magnitude.ofWhole whole 0).withFraction (after.getD [])
  let bounded := match exponent with
    | none => magnitude.isBounded
    | some (lowered, digits) => magnitude.isBoundedAt lowered (numberOf digits)
  if bounded then .foreign else .unreadable

/-- The value of a whole number, if it is one that fits in sixty-four bits. -/
def wholeNumber? (negative : Bool) (value : Nat) : Option Datum :=
  if negative then
    if value = 0 ∨ 0x8000000000000000 < value then none else some (.int (-value))
  else if 0x10000000000000000 ≤ value then none
  else some (.int value)

/-- A number. -/
def readNumber (text : Rest) : Option (Datum × Rest) := do
  let (negative, unsigned) := match text with
    | '-' :: rest => (true, rest)
    | _ => (false, text)
  let (whole, rest) ← someDigits? unsigned
  match whole with
  | '0' :: _ :: _ => none
  | _ =>
    let (after, rest) ← readFraction? rest
    let (exponent, rest) ← readExponent? rest
    match after, exponent with
    | none, none => some ((wholeNumber? negative (numberOf whole)).getD (fraction whole none none), rest)
    | _, _ => some (fraction whole after exponent, rest)

/-! ## Values -/

/-- A word that stands for a value. -/
def readWord : Rest → Option (Datum × Rest)
  | 'n' :: 'u' :: 'l' :: 'l' :: rest => some (.null, rest)
  | 't' :: 'r' :: 'u' :: 'e' :: rest => some (.bool true, rest)
  | 'f' :: 'a' :: 'l' :: 's' :: 'e' :: rest => some (.bool false, rest)
  | _ => none

/-- A value that is no container. -/
def readScalar : Rest → Option (Datum × Rest)
  | '"' :: rest => readString rest
  | character :: rest =>
    if character = '-' ∨ character.isDigit then readNumber (character :: rest)
    else readWord (character :: rest)
  | [] => none

/-- A key after blanks, and the colon that follows it. -/
def readKey (text : Rest) : Option (Datum × Rest) :=
  match skipBlanks text with
  | '"' :: rest =>
    match readString rest with
    | none => none
    | some (key, rest) =>
      match skipBlanks rest with
      | ':' :: rest => some (key, rest)
      | _ => none
  | _ => none

/-- The kinds of containers. -/
inductive Container where
  | list
  | map
  deriving DecidableEq

/-- Pass over what is left of some containers, the innermost first, and, where `due`, over a value
before that. The first number bounds the calls and is greater than the length of the text. -/
def passOver : Nat → Bool → List Container → Rest → Option Rest
  | 0, _, _, _ => none
  | _ + 1, false, [], text => some text
  | fuel + 1, false, container :: outer, text =>
    match container, skipBlanks text with
    | .list, ',' :: rest => passOver fuel true (.list :: outer) rest
    | .list, ']' :: rest => passOver fuel false outer rest
    | .map, ',' :: rest =>
      match readKey rest with
      | some (_, rest) => passOver fuel true (.map :: outer) rest
      | none => none
    | .map, '\x7d' :: rest => passOver fuel false outer rest
    | _, _ => none
  | fuel + 1, true, containers, text =>
    match skipBlanks text with
    | '[' :: rest =>
      match skipBlanks rest with
      | ']' :: rest => passOver fuel false containers rest
      | rest => passOver fuel true (.list :: containers) rest
    | '\x7b' :: rest =>
      match skipBlanks rest with
      | '\x7d' :: rest => passOver fuel false containers rest
      | rest =>
        match readKey rest with
        | some (_, rest) => passOver fuel true (.map :: containers) rest
        | none => none
    | text =>
      match readScalar text with
      | some (_, rest) => passOver fuel false containers rest
      | none => none

/-- Pass over a value that stands too deep to be read. -/
def passOverOne (fuel : Nat) (text : Rest) : Option (Datum × Rest) :=
  (passOver fuel true [] text).map fun rest => (.unreadable, rest)

mutual
/-- A value after blanks. The first number bounds the calls and is greater than twice the length of
the text; the second is how deep containers may still be nested. -/
def readValue : Nat → Nat → Rest → Option (Datum × Rest)
  | 0, _, _ => none
  | fuel + 1, depth, text =>
    match skipBlanks text with
    | '[' :: rest =>
      if depth ≤ 1 then passOverOne fuel ('[' :: rest)
      else
        match skipBlanks rest with
        | ']' :: rest => some (.list [], rest)
        | rest => readItems fuel (depth - 1) rest []
    | '\x7b' :: rest =>
      if depth ≤ 1 then passOverOne fuel ('\x7b' :: rest)
      else
        match skipBlanks rest with
        | '\x7d' :: rest => some (.map [], rest)
        | rest => readMembers fuel (depth - 1) rest []
    | text => readScalar text

/-- The items of a list up to its closing bracket. -/
def readItems : Nat → Nat → Rest → List Datum → Option (Datum × Rest)
  | 0, _, _, _ => none
  | fuel + 1, depth, text, reversed =>
    match readValue fuel depth text with
    | none => none
    | some (item, rest) =>
      match skipBlanks rest with
      | ',' :: rest => readItems fuel depth rest (item :: reversed)
      | ']' :: rest => some (.list (item :: reversed).reverse, rest)
      | _ => none

/-- The entries of a map up to its closing brace. -/
def readMembers : Nat → Nat → Rest → List (Datum × Datum) → Option (Datum × Rest)
  | 0, _, _, _ => none
  | fuel + 1, depth, text, reversed =>
    match readKey text with
    | none => none
    | some (key, rest) =>
      match readValue fuel depth rest with
      | none => none
      | some (value, rest) =>
        match skipBlanks rest with
        | ',' :: rest => readMembers fuel depth rest ((key, value) :: reversed)
        | '\x7d' :: rest => some (.map ((key, value) :: reversed).reverse, rest)
        | _ => none
end

/-- The datum that a text spells. -/
def parse? (text : String) : Option Datum :=
  let characters := text.toList
  match readValue (2 * characters.length + 2) 128 characters with
  | some (datum, rest) => if (skipBlanks rest).isEmpty then some datum else none
  | none => none

end Lockstep.Json
