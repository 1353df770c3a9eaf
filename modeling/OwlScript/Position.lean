namespace OwlScript

/-!
# Positions

A position names one character of a script by line and column.  Both count
from one, and columns count code points, so a position can be shown to the
writer of the script as it stands.
-/

/-- A one-based line and column. -/
structure Position where
  line : Nat
  column : Nat
  deriving Repr, DecidableEq, Inhabited

namespace Position

/-- The first position of every text. -/
def start : Position :=
  ⟨1, 1⟩

/-- The written form `line:column`. -/
def text (position : Position) : String :=
  toString position.line ++ ":" ++ toString position.column

end Position

end OwlScript
