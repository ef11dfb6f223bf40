import Lockstep.Datum

/-!
# Data as JSON text

A datum is printed either on one line without blanks or, for files, over several lines with two
blanks for each level and an empty container on the line where it begins. A quotation mark, a
backslash and the control characters below U+0020 are escaped and nothing else is. A number used
as a key is printed as a text, a byte string as the list of its bytes, a foreign value as a
fraction, and an unreadable one as a number without bound.
-/

set_option autoImplicit false

namespace Lockstep.Json

/-- Four lower-case hexadecimal digits. -/
def fourDigits (code : Nat) : List Char :=
  [hexDigit (code / 4096 % 16), hexDigit (code / 256 % 16), hexDigit (code / 16 % 16),
    hexDigit (code % 16)]

/-- A character as it stands inside quotation marks. -/
def escape (character : Char) : List Char :=
  if character = '"' then ['\\', '"']
  else if character = '\\' then ['\\', '\\']
  else if character.toNat = 0x08 then ['\\', 'b']
  else if character.toNat = 0x09 then ['\\', 't']
  else if character.toNat = 0x0A then ['\\', 'n']
  else if character.toNat = 0x0C then ['\\', 'f']
  else if character.toNat = 0x0D then ['\\', 'r']
  else if character.toNat < 0x20 then '\\' :: 'u' :: fourDigits character.toNat
  else [character]

/-- A text between quotation marks. -/
def quote (text : String) : String :=
  "\"" ++ String.ofList (text.toList.flatMap escape) ++ "\""

/-- A map key, which is always printed as a text. -/
def key : Datum → String
  | .text name => quote name
  | .int value | .padded _ _ value => quote (toString value)
  | _ => quote ""

/-- A scalar, or a container without its contents. -/
def scalar : Datum → String
  | .bool true => "true"
  | .bool false => "false"
  | .int value | .padded _ _ value => toString value
  | .text value => quote value
  | .list _ | .bytes _ | .garbled _ => "[]"
  | .map _ => "\x7b\x7d"
  | .null => "null"
  | .foreign => "0.5"
  | .unreadable => "1e999"

mutual
/-- A datum on one line. -/
def compact : Datum → String
  | .list items => "[" ++ String.intercalate "," (compactItems items) ++ "]"
  | .bytes value | .garbled value =>
    "[" ++ String.intercalate "," (value.map fun byte => toString byte.toNat) ++ "]"
  | .map entries => "\x7b" ++ String.intercalate "," (compactEntries entries) ++ "\x7d"
  | datum => scalar datum

/-- The items of a list, each on one line. -/
def compactItems : List Datum → List String
  | [] => []
  | item :: rest => compact item :: compactItems rest

/-- The entries of a map, each on one line. -/
def compactEntries : List (Datum × Datum) → List String
  | [] => []
  | (label, value) :: rest => (key label ++ ":" ++ compact value) :: compactEntries rest
end

/-- Lines that begin a level deeper than what surrounds them, between two brackets. -/
def block (depth : Nat) (opening closing : String) (lines : List String) : String :=
  let margin (level : Nat) : String := "\n" ++ String.ofList (List.replicate (2 * level) ' ')
  opening ++ String.intercalate "," (lines.map fun line => margin (depth + 1) ++ line) ++
    margin depth ++ closing

mutual
/-- A datum over several lines, at a depth. -/
def pretty (depth : Nat) : Datum → String
  | .list (item :: rest) => block depth "[" "]" (prettyItems (depth + 1) (item :: rest))
  | .bytes (byte :: rest) | .garbled (byte :: rest) =>
    block depth "[" "]" ((byte :: rest).map fun byte => toString byte.toNat)
  | .map (entry :: rest) => block depth "\x7b" "\x7d" (prettyEntries (depth + 1) (entry :: rest))
  | datum => scalar datum

/-- The items of a list, at a depth. -/
def prettyItems (depth : Nat) : List Datum → List String
  | [] => []
  | item :: rest => pretty depth item :: prettyItems depth rest

/-- The entries of a map, at a depth. -/
def prettyEntries (depth : Nat) : List (Datum × Datum) → List String
  | [] => []
  | (label, value) :: rest => (key label ++ ": " ++ pretty depth value) :: prettyEntries depth rest
end

end Lockstep.Json
