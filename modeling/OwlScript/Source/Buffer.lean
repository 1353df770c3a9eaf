import OwlScript.Source.Cursor

namespace OwlScript

/-!
# Source buffer

A buffer keeps the lines of the text loaded last and one place among them: a
character, named by its line and column, or the end.  Lines without characters
offer no place to stand.  So a move over the end of a line searches for the
next line that has characters, and a move back over its beginning searches for
the closest one before.  The current character is kept as well, and is brought
up to date after every move.
-/

/-- A character by its line and column, both counted from zero, or the end. -/
inductive Place where
  | character (line column : Nat)
  | ended
  deriving Repr, DecidableEq

/-- The number of characters of a line; none where there is no line. -/
def lengthOfLine (lines : List Line) (line : Nat) : Nat :=
  (lines[line]?.map Line.length).getD 0

namespace Place

/-- The character at a place, or the marker where there is none. -/
def value (lines : List Line) : Place → Char
  | .character line column =>
      (lines[line]?.bind fun text => text.get? column).getD endMarker
  | .ended => endMarker

/-- The first character from a line on. -/
def firstFrom (lines : List Line) (line : Nat) : Place :=
  match (lines.drop line).findIdx? fun text => !text.isEmpty with
  | some skipped => .character (line + skipped) 0
  | none => .ended

/-- The last character before a line. -/
def lastBefore? (lines : List Line) : Nat → Option Place
  | 0 => none
  | line + 1 =>
      if lengthOfLine lines line = 0 then
        lastBefore? lines line
      else
        some (.character line (lengthOfLine lines line - 1))

/-- The place one character on; the end stays where it is. -/
def next (lines : List Line) : Place → Place
  | .character line column =>
      if column + 1 < lengthOfLine lines line then
        .character line (column + 1)
      else
        firstFrom lines (line + 1)
  | .ended => .ended

/-- The place one character back, if there is one. -/
def previous? (lines : List Line) : Place → Option Place
  | .character line (column + 1) => some (.character line column)
  | .character line 0 => lastBefore? lines line
  | .ended => lastBefore? lines lines.length

end Place

/--
The lines of the text loaded last, the place among them, and the character
there.  The store keeps what was read from the last file.
-/
structure Buffer where
  store : LineStore
  lines : List Line
  place : Place
  current : Char
  deriving Repr, DecidableEq

namespace Buffer

/-- The buffer before any text is loaded. -/
def empty : Buffer :=
  ⟨LineStore.empty, [], .ended, endMarker⟩

/-- The buffer at another place, with the character there. -/
def moved (buffer : Buffer) (place : Place) : Buffer :=
  { buffer with place := place, current := place.value buffer.lines }

/-- The buffer on the first character of some lines. -/
def commit (buffer : Buffer) (lines : List Line) : Buffer :=
  { buffer with lines := lines }.moved (.firstFrom lines 0)

/--
Loads a file, and whether that was possible.  If not, the buffer stands behind
the end of no lines.
-/
def loadFile
    (files : Files)
    (path : String)
    (buffer : Buffer) :
    Bool × Buffer :=
  match buffer.store.load files path with
  | (true, store) => (true, { buffer with store := store }.commit store.lines)
  | (false, store) => (false, { buffer with store := store }.commit [])

/-- Loads a text as one line, with its line endings as characters. -/
def loadText (text : String) (buffer : Buffer) : Buffer :=
  { buffer with store := buffer.store.reset }.commit [Line.ofText text]

/-- Moves one character on, and gives the new current character. -/
def advance (buffer : Buffer) : Char × Buffer :=
  let after := buffer.moved (buffer.place.next buffer.lines)
  (after.current, after)

/-- Moves one character back; before the first character that fails. -/
def retreat (buffer : Buffer) : Except Failure Unit × Buffer :=
  match buffer.place.previous? buffer.lines with
  | some place => (.ok (), buffer.moved place)
  | none => (.error .bufferUnderflow, buffer)

/-- Whether the current character looks like the end. -/
def looksEnded (buffer : Buffer) : Bool :=
  buffer.current == endMarker

/-- The line of the current character counted from zero; at the end, of all. -/
def lineNumber (buffer : Buffer) : Nat :=
  match buffer.place with
  | .character line _ => line
  | .ended => buffer.lines.length

/-- The position of the current character, if the buffer stands on one. -/
def position? (buffer : Buffer) : Option Position :=
  match buffer.place with
  | .character line column => some ⟨line + 1, column + 1⟩
  | .ended => none

/-- The position directly behind the last character of the whole text. -/
def endPosition (buffer : Buffer) : Position :=
  match Place.lastBefore? buffer.lines buffer.lines.length with
  | some (.character line column) => ⟨line + 1, column + 2⟩
  | _ => Position.start

/--
Reads on until the current character looks like the end, in at most the given
rounds, and gives the characters passed.
-/
def drainFor : Nat → Buffer → List Char × Buffer
  | 0, buffer => ([], buffer)
  | rounds + 1, buffer =>
      if buffer.looksEnded then
        ([], buffer)
      else
        let (passed, after) := drainFor rounds buffer.advance.2
        (buffer.current :: passed, after)

/-- Moves back until that fails, in at most the given rounds, and gives the
characters reached on the way. -/
def rewindFor : Nat → Buffer → List Char × Buffer
  | 0, buffer => ([], buffer)
  | rounds + 1, buffer =>
      match buffer.retreat with
      | (.ok (), back) =>
          let (reached, after) := rewindFor rounds back
          (back.current :: reached, after)
      | (.error _, same) => ([], same)

/-- The number of characters of the whole text. -/
def length (buffer : Buffer) : Nat :=
  buffer.lines.foldr (fun line total => line.length + total) 0

/-- Reads on until the current character looks like the end. -/
def drain (buffer : Buffer) : List Char × Buffer :=
  buffer.drainFor buffer.length

/-- Moves back until that fails. -/
def rewind (buffer : Buffer) : List Char × Buffer :=
  buffer.rewindFor buffer.length

end Buffer

end OwlScript
