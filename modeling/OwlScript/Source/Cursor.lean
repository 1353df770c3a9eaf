import OwlScript.Diagnostic
import OwlScript.Source.Line

namespace OwlScript

/-!
# Source cursor

A cursor stands on one character of a text or behind its last.  It moves one
character at a time in either direction.  Lines without characters offer no
place to stand, so they are stepped over both ways; every character carries
its own line and column.
-/

/-- The character that is reported behind the last one of a text. -/
def endMarker : Char :=
  '\x7f'

/-- One character of a text and where it stands. -/
structure SourceCharacter where
  value : Char
  position : Position
  deriving Repr, DecidableEq

/-- The characters of a line with their positions. -/
def locateLine (number : Nat) (line : Line) : List SourceCharacter :=
  line.characters.mapIdx fun column value => ⟨value, ⟨number, column + 1⟩⟩

/-- The characters of all lines in order, with their positions. -/
def locateLines (lines : List Line) : List SourceCharacter :=
  (lines.mapIdx fun index line => locateLine (index + 1) line).flatten

/--
A place in a text: the characters passed, nearest first, and those ahead, the
current one first.  Behind the last character none are ahead.
-/
structure Cursor where
  lineCount : Nat
  passed : List SourceCharacter
  ahead : List SourceCharacter
  deriving Repr, DecidableEq

namespace Cursor

/-- The cursor on the first character of some lines. -/
def ofLines (lines : List Line) : Cursor :=
  ⟨lines.length, [], locateLines lines⟩

/-- The cursor before any text is loaded. -/
def empty : Cursor :=
  ofLines []

/-- The cursor on the first character of a text taken as one line. -/
def ofText (text : String) : Cursor :=
  ofLines [Line.ofText text]

/--
The cursor on the first character of a file, and whether it could be read.  If
not, the cursor is behind the end of no lines.
-/
def ofFile (files : Files) (path : String) : Bool × Cursor :=
  let (loaded, store) := LineStore.empty.load files path
  (loaded, ofLines store.lines)

/-- All characters of the text, those passed and those ahead. -/
def characters (cursor : Cursor) : List SourceCharacter :=
  cursor.passed.reverse ++ cursor.ahead

/-- The number of characters passed. -/
def place (cursor : Cursor) : Nat :=
  cursor.passed.length

/-- The current character with its position, if the cursor stands on one. -/
def here? (cursor : Cursor) : Option SourceCharacter :=
  cursor.ahead.head?

/-- The current character, or the marker behind the last one. -/
def current (cursor : Cursor) : Char :=
  match cursor.here? with
  | some here => here.value
  | none => endMarker

/--
Whether the current character looks like the end.  A marker that is part of
the text looks like it as well, but has a position.
-/
def looksEnded (cursor : Cursor) : Bool :=
  cursor.current == endMarker

/-- The position of the current character, if the cursor stands on one. -/
def position? (cursor : Cursor) : Option Position :=
  cursor.here?.map SourceCharacter.position

/-- The line of the current character counted from zero; at the end, of all. -/
def lineNumber (cursor : Cursor) : Nat :=
  match cursor.here? with
  | some here => here.position.line - 1
  | none => cursor.lineCount

/-- The last character of the whole text. -/
def last? (cursor : Cursor) : Option SourceCharacter :=
  cursor.ahead.getLast?.or cursor.passed.head?

/-- The position directly behind the last character of the whole text. -/
def endPosition (cursor : Cursor) : Position :=
  match cursor.last? with
  | some last => ⟨last.position.line, last.position.column + 1⟩
  | none => Position.start

/-- One character on; behind the last character, no move. -/
def advance (cursor : Cursor) : Cursor :=
  match cursor.ahead with
  | [] => cursor
  | here :: rest =>
      { cursor with passed := here :: cursor.passed, ahead := rest }

/-- One character back; before the first character there is none. -/
def retreat (cursor : Cursor) : Except Failure Cursor :=
  match cursor.passed with
  | [] => .error .bufferUnderflow
  | previous :: rest =>
      .ok { cursor with passed := rest, ahead := previous :: cursor.ahead }

/-- The characters from the current one on that satisfy a condition. -/
def run
    (cursor : Cursor)
    (condition : SourceCharacter → Bool) :
    List SourceCharacter :=
  cursor.ahead.takeWhile condition

/-- On to the first character that does not satisfy a condition. -/
def advanceWhile
    (cursor : Cursor)
    (condition : SourceCharacter → Bool) :
    Cursor :=
  { cursor with
    passed := (cursor.run condition).reverse ++ cursor.passed
    ahead := cursor.ahead.dropWhile condition }

/-- On until the current character looks like the end, with those passed. -/
def drain (cursor : Cursor) : String × Cursor :=
  let isText (character : SourceCharacter) : Bool :=
    character.value != endMarker
  (String.ofList ((cursor.run isText).map SourceCharacter.value),
    cursor.advanceWhile isText)

/-- Back to the first character, with those reached on the way. -/
def rewind (cursor : Cursor) : String × Cursor :=
  (String.ofList (cursor.passed.map SourceCharacter.value),
    { cursor with
      passed := []
      ahead := cursor.passed.reverse ++ cursor.ahead })

/-- A cursor on some lines has all of their characters. -/
@[simp]
theorem characters_ofLines (lines : List Line) :
    (ofLines lines).characters = locateLines lines := by
  simp [characters, ofLines]

/-- A cursor on some lines has passed nothing. -/
@[simp]
theorem place_ofLines (lines : List Line) : (ofLines lines).place = 0 :=
  rfl

/-- A cursor has passed no more characters than there are. -/
theorem place_le_length (cursor : Cursor) :
    cursor.place ≤ cursor.characters.length := by
  simp [place, characters]

/-- The current character is the one at the place of the cursor. -/
theorem here?_eq_getElem? (cursor : Cursor) :
    cursor.here? = cursor.characters[cursor.place]? := by
  simp [here?, characters, place, List.head?_eq_getElem?,
    List.getElem?_append_right]

/-- Moving on keeps the text. -/
@[simp]
theorem characters_advance (cursor : Cursor) :
    cursor.advance.characters = cursor.characters := by
  rcases cursor with ⟨lineCount, passed, _ | ⟨here, rest⟩⟩ <;>
    simp [advance, characters]

/-- Moving on passes one character, as long as there is one. -/
theorem place_advance (cursor : Cursor) :
    cursor.advance.place =
      min (cursor.place + 1) cursor.characters.length := by
  rcases cursor with ⟨lineCount, passed, _ | ⟨here, rest⟩⟩ <;>
    simp [advance, place, characters]

/-- Moving back undoes a move from a character. -/
theorem retreat_advance
    {cursor : Cursor}
    {here : SourceCharacter}
    (stands : cursor.here? = some here) :
    cursor.advance.retreat = .ok cursor := by
  rcases cursor with ⟨lineCount, passed, _ | ⟨first, rest⟩⟩
  · simp [here?] at stands
  · simp [advance, retreat]

/-- Moving back fails exactly on the first character. -/
theorem retreat_eq_error_iff (cursor : Cursor) :
    cursor.retreat = .error .bufferUnderflow ↔ cursor.place = 0 := by
  rcases cursor with ⟨lineCount, _ | ⟨previous, earlier⟩, ahead⟩ <;>
    simp [retreat, place]

/-- Moving back keeps the text. -/
theorem characters_of_retreat_eq_ok
    {cursor back : Cursor}
    (moved : cursor.retreat = .ok back) :
    back.characters = cursor.characters := by
  rcases cursor with ⟨lineCount, _ | ⟨previous, earlier⟩, ahead⟩
  · simp [retreat] at moved
  · simp only [retreat, Except.ok.injEq] at moved
    subst moved
    simp [characters]

/-- Moving on under a condition keeps the text. -/
@[simp]
theorem characters_advanceWhile
    (cursor : Cursor)
    (condition : SourceCharacter → Bool) :
    (cursor.advanceWhile condition).characters = cursor.characters := by
  simp [advanceWhile, run, characters, List.takeWhile_append_dropWhile]

/-- Moving back to the first character keeps the text. -/
@[simp]
theorem characters_rewind (cursor : Cursor) :
    cursor.rewind.2.characters = cursor.characters := by
  simp [rewind, characters]

/-- The first character has nothing before it. -/
@[simp]
theorem place_rewind (cursor : Cursor) : cursor.rewind.2.place = 0 :=
  rfl

end Cursor

end OwlScript
