namespace OwlScript.Text

/-!
# Text from bytes

Bytes are read as UTF-8.  Where they are not valid, each longest run that
could still have begun a character, or else each single byte, is replaced by
one replacement character, and reading goes on behind it.
-/

/-- The character that stands for bytes that are no text. -/
def replacement : Char :=
  '\uFFFD'

/--
A character that has begun: the bits read so far, how many bytes are still
owed, and the least and greatest byte that may come next.
-/
structure OpenCharacter where
  bits : Nat
  owed : Nat
  least : UInt8
  greatest : UInt8
  deriving Repr, DecidableEq

namespace OpenCharacter

/--
The character that a leading byte begins.  The bounds on the second byte leave
out overlong forms, surrogates and everything beyond the last code point.
-/
def ofLeading (byte : UInt8) : Option OpenCharacter :=
  let code := byte.toNat
  if 0xC2 ≤ code ∧ code ≤ 0xDF then some ⟨code - 0xC0, 1, 0x80, 0xBF⟩
  else if code = 0xE0 then some ⟨0, 2, 0xA0, 0xBF⟩
  else if code = 0xED then some ⟨0xD, 2, 0x80, 0x9F⟩
  else if 0xE1 ≤ code ∧ code ≤ 0xEF then some ⟨code - 0xE0, 2, 0x80, 0xBF⟩
  else if code = 0xF0 then some ⟨0, 3, 0x90, 0xBF⟩
  else if 0xF1 ≤ code ∧ code ≤ 0xF3 then some ⟨code - 0xF0, 3, 0x80, 0xBF⟩
  else if code = 0xF4 then some ⟨4, 3, 0x80, 0x8F⟩
  else none

/-- Whether the byte may come next. -/
def accepts (character : OpenCharacter) (byte : UInt8) : Bool :=
  character.least ≤ byte && byte ≤ character.greatest

/-- The bits with those of one more byte. -/
def bitsWith (character : OpenCharacter) (byte : UInt8) : Nat :=
  character.bits * 64 + byte.toNat % 64

end OpenCharacter

/-- The text read so far and the character that has begun, if any. -/
structure Repair where
  text : String
  pending : Option OpenCharacter

namespace Repair

/-- Reads a byte with which no character has begun yet. -/
def first (text : String) (byte : UInt8) : Repair :=
  if byte < 0x80 then
    ⟨text.push (Char.ofNat byte.toNat), none⟩
  else
    match OpenCharacter.ofLeading byte with
    | some character => ⟨text, some character⟩
    | none => ⟨text.push replacement, none⟩

/--
Reads one byte.  A byte that cannot go on with the begun character closes it
as a replacement character and is read afresh.
-/
def step (state : Repair) (byte : UInt8) : Repair :=
  match state.pending with
  | none => first state.text byte
  | some character =>
      if character.accepts byte then
        if character.owed = 1 then
          ⟨state.text.push (Char.ofNat (character.bitsWith byte)), none⟩
        else
          ⟨state.text,
            some ⟨character.bitsWith byte, character.owed - 1, 0x80, 0xBF⟩⟩
      else
        first (state.text.push replacement) byte

/-- The text at the end of the bytes, where a begun character is cut off. -/
def finish (state : Repair) : String :=
  match state.pending with
  | none => state.text
  | some _ => state.text.push replacement

end Repair

/-- The text of the bytes with every invalid part replaced. -/
def repaired (bytes : ByteArray) : String :=
  (bytes.foldl Repair.step ⟨"", none⟩).finish

/-- The text of the bytes: as it stands if valid, otherwise repaired. -/
def ofBytes (bytes : ByteArray) : String :=
  (String.fromUTF8? bytes).getD (repaired bytes)

end OwlScript.Text
