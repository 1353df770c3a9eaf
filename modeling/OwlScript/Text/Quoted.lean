import OwlScript.Text.Combining
import OwlScript.Text.Unprintable

namespace OwlScript.Text

/-!
# Quoted text

A text between double quotes, written so that it can be read on one line and
read back without doubt: the quote, the backslash and four controls have short
escapes, and a character that could not be seen alone is written as its code
point in braces.
-/

/-- The code point in lower-case hexadecimal digits, as many as it needs. -/
def codePointDigits (character : Char) : List Char :=
  Nat.toDigits 16 character.toNat

/-- The written form of one character between the quotes. -/
def quotedCharacter (character : Char) : List Char :=
  if character = '\x00' then ['\\', '0']
  else if character = '\t' then ['\\', 't']
  else if character = '\r' then ['\\', 'r']
  else if character = '\n' then ['\\', 'n']
  else if character = '"' then ['\\', '"']
  else if character = '\\' then ['\\', '\\']
  else if isCombining character || isUnprintable character then
    ['\\', 'u', '\x7b'] ++ codePointDigits character ++ ['\x7d']
  else
    [character]

/-- The text between double quotes, every character in its written form. -/
def quoted (text : String) : String :=
  "\"" ++ String.ofList (text.toList.flatMap quotedCharacter) ++ "\""

end OwlScript.Text
