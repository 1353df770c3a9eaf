import OwlScript.Files
import OwlScript.Text.Lines
import OwlScript.Text.Utf8

namespace OwlScript

/-!
# Source lines

A file is read as an ordered list of lines without their endings.  A line
knows its characters, and its length counts them.
-/

/-- One physical line of a script without its ending. -/
structure Line where
  characters : List Char
  deriving Repr, DecidableEq

namespace Line

/-- The whole text as one line, with its line endings as characters. -/
def ofText (text : String) : Line :=
  ⟨text.toList⟩

/-- The number of characters. -/
def length (line : Line) : Nat :=
  line.characters.length

/-- Whether the line has no characters. -/
def isEmpty (line : Line) : Bool :=
  line.characters.isEmpty

/-- The character in a column counted from zero. -/
def get? (line : Line) (column : Nat) : Option Char :=
  line.characters[column]?

/-- The characters as one text. -/
def text (line : Line) : String :=
  String.ofList line.characters

end Line

/-- The lines of a file's content. -/
def linesOfContent (content : ByteArray) : List Line :=
  (Text.lines (Text.ofBytes content)).map Line.mk

/-- The lines of the file read last, or none. -/
structure LineStore where
  lines : List Line
  deriving Repr, DecidableEq

namespace LineStore

/-- The store before any file is read. -/
def empty : LineStore :=
  ⟨[]⟩

/-- The store after its lines are let go. -/
def reset (_store : LineStore) : LineStore :=
  empty

/--
Reads the file under a path, and whether that was possible.  The lines held
before are gone either way.
-/
def load
    (store : LineStore)
    (files : Files)
    (path : String) :
    Bool × LineStore :=
  match files path with
  | some content => (true, ⟨linesOfContent content⟩)
  | none => (false, store.reset)

/-- The number of lines. -/
def lineCount (store : LineStore) : Nat :=
  store.lines.length

end LineStore

end OwlScript
