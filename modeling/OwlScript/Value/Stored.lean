import OwlScript.Value.Basic

namespace OwlScript

/-!
# Stored values

A stored value knows how many bytes are reserved for its text.  A literal and
a copy reserve exactly what the text takes; a text that has just been joined
from two may reserve more, because room is made by doubling.
-/

/-- A value and the bytes reserved for it. -/
structure Stored where
  value : Value
  reserved : Nat
  deriving DecidableEq

/-- The least room that is made for a text that is not empty. -/
def leastRoom : Nat :=
  8

/--
The bytes reserved after more bytes are appended.  If they do not fit, the
room is doubled, or made as large as needed if that is more.
-/
def reservedAfterAppend (reserved length added : Nat) : Nat :=
  if added = 0 ∨ length + added ≤ reserved then
    reserved
  else
    max (max (2 * reserved) (length + added)) leastRoom

/-- The bytes reserved for two texts appended in turn to an empty one. -/
def reservedForJoin (left right : Nat) : Nat :=
  reservedAfterAppend (reservedAfterAppend 0 0 left) left right

namespace Stored

/-- A value stored with no bytes to spare. -/
def exact (value : Value) : Stored where
  value := value
  reserved :=
    match value with
    | .string text => text.utf8ByteSize
    | _ => 0

/-- Two texts joined to a new one. -/
def joined (left right : String) : Stored where
  value := .string (left ++ right)
  reserved := reservedForJoin left.utf8ByteSize right.utf8ByteSize

end Stored

end OwlScript
