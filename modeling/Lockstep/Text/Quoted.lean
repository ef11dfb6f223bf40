import Lockstep.Bytes.Text
import Lockstep.Text.Hidden

/-!
# Quoted text

What clients say is shown between quotation marks. Quotation marks and backslashes are escaped
with a backslash, the line and tab controls and the zero character by a letter or digit, and every
other character without a shape of its own by its number in lower-case hexadecimal.
-/

set_option autoImplicit false

namespace Lockstep

/-- A character as it stands inside quotation marks. -/
def quotedCharacter (character : Char) : List Char :=
  if character = '"' ∨ character = '\\' then ['\\', character]
  else if character = '\n' then ['\\', 'n']
  else if character = '\r' then ['\\', 'r']
  else if character = '\t' then ['\\', 't']
  else if character.toNat = 0 then ['\\', '0']
  else if isHidden character then
    '\\' :: 'u' :: '\x7b' :: Nat.toDigits 16 character.toNat ++ ['\x7d']
  else [character]

/-- A text between quotation marks. -/
def quoted (text : String) : String :=
  "\"" ++ String.ofList (text.toList.flatMap quotedCharacter) ++ "\""

end Lockstep
