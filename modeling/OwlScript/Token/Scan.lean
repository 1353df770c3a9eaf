import OwlScript.Source.Cursor
import OwlScript.Text.Blank
import OwlScript.Text.Numeral
import OwlScript.Token.Basic

namespace OwlScript

/-!
# Scanning

A text is scanned from its first character on.  Blank characters and comments
are skipped, and every other character begins a token that takes as many
characters as it can.  No token and no comment goes on behind the end of the
line it began on.

Two tokens need a look at the character behind the next: a slash may begin a
comment, and a point behind digits may begin a fraction.  There the cursor
moves on and, if the look was in vain, back again.
-/

namespace Cursor

/-- The current character if it stands on the given line. -/
def hereOnLine? (cursor : Cursor) (line : Nat) : Option Char :=
  match cursor.here? with
  | some here => if here.position.line = line then some here.value else none
  | none => none

/--
The characters from the current one on that satisfy a condition on a line.
-/
def takeOnLine
    (cursor : Cursor)
    (line : Nat)
    (condition : Char → Bool) :
    List Char × Cursor :=
  let inside (character : SourceCharacter) : Bool :=
    character.position.line == line && condition character.value
  ((cursor.run inside).map SourceCharacter.value, cursor.advanceWhile inside)

end Cursor

namespace Scan

/-- What the scanner finds at one place, and the cursor behind it. -/
inductive Element where
  | skipped (after : Cursor)
  | token (found : Token) (after : Cursor)
  deriving Repr, DecidableEq

/-- The fault of a text that ends without a closing quote. -/
def unterminatedString (position : Position) : Failure :=
  .diagnostic (.located .lexer "unterminated string literal" position)

/-- Whether a character begins an identifier or a keyword. -/
def beginsWord (character : Char) : Bool :=
  Text.isAlphabetic character || character == '_'

/-- Whether a character goes on with an identifier or a keyword. -/
def continuesWord (character : Char) : Bool :=
  Text.isAlphanumeric character || character == '_'

/-- The kind of a word: a keyword if it is one, otherwise an identifier. -/
def wordKind (word : String) : TokenKind :=
  match Keyword.ofSpelling? word with
  | some keyword => .keyword keyword
  | none => .identifier

/-- The word that begins with the current character. -/
def word (cursor : Cursor) (here : SourceCharacter) : Element :=
  let (rest, after) :=
    cursor.advance.takeOnLine here.position.line continuesWord
  let lexeme := String.ofList (here.value :: rest)
  .token ⟨wordKind lexeme, lexeme, here.position⟩ after

/--
The number that begins with the current digit.  A point belongs to it only if
a digit follows on the same line; otherwise the cursor moves back to it.
-/
def number
    (cursor : Cursor)
    (here : SourceCharacter) :
    Except Failure Element := do
  let line := here.position.line
  let (whole, behindWhole) := cursor.takeOnLine line Char.isDigit
  if behindWhole.hereOnLine? line = some '.' then
    let behindPoint := behindWhole.advance
    let (fraction, after) := behindPoint.takeOnLine line Char.isDigit
    if fraction.isEmpty then
      let back ← behindPoint.retreat
      return .token ⟨.integer, String.ofList whole, here.position⟩ back
    else
      let lexeme := String.ofList (whole ++ '.' :: fraction)
      return .token ⟨.float, lexeme, here.position⟩ after
  else
    return .token ⟨.integer, String.ofList whole, here.position⟩ behindWhole

/-- The character that a backslash and the given character stand for. -/
def unescape (character : Char) : Char :=
  if character = 'n' then '\n'
  else if character = 't' then '\t'
  else if character = 'r' then '\r'
  else character

/--
The rest of a string behind its opening quote: the text it stands for, and
what is passed and ahead behind the closing quote.  There is none if the line
ends first.
-/
def stringRest
    (line : Nat)
    (decoded : List Char)
    (passed : List SourceCharacter) :
    List SourceCharacter →
      Option (List Char × List SourceCharacter × List SourceCharacter)
  | [] => none
  | here :: rest =>
      if here.position.line ≠ line then
        none
      else if here.value = '"' then
        some (decoded.reverse, here :: passed, rest)
      else if here.value = '\\' then
        match rest with
        | [] => none
        | escaped :: behind =>
            if escaped.position.line ≠ line then
              none
            else
              stringRest line (unescape escaped.value :: decoded)
                (escaped :: here :: passed) behind
      else
        stringRest line (here.value :: decoded) (here :: passed) rest

/-- The string that begins with the current quote. -/
def string
    (cursor : Cursor)
    (here : SourceCharacter) :
    Except Failure Element :=
  let inside := cursor.advance
  match stringRest here.position.line [] inside.passed inside.ahead with
  | some (text, passed, ahead) =>
      .ok (.token ⟨.string, String.ofList text, here.position⟩
        { cursor with passed := passed, ahead := ahead })
  | none => .error (unterminatedString here.position)

/-- The sign that the current character is by itself. -/
def sign
    (cursor : Cursor)
    (here : SourceCharacter)
    (kind : TokenKind) :
    Element :=
  .token ⟨kind, String.singleton here.value, here.position⟩ cursor.advance

/-- The sign that the current character is, or is with an equals sign behind. -/
def signWithEqual
    (cursor : Cursor)
    (here : SourceCharacter)
    (bare paired : TokenKind) :
    Element :=
  let next := cursor.advance
  if next.hereOnLine? here.position.line = some '=' then
    .token ⟨paired, String.ofList [here.value, '='], here.position⟩
      next.advance
  else
    sign cursor here bare

/--
The comment that begins with the current slash, or else the slash as a sign.
A comment runs to the end of its line.
-/
def slash
    (cursor : Cursor)
    (here : SourceCharacter) :
    Except Failure Element := do
  let line := here.position.line
  let next := cursor.advance
  if next.hereOnLine? line = some '/' then
    return .skipped
      (next.advanceWhile fun character => character.position.line == line)
  else
    let back ← next.retreat
    return sign back here .slash

/-- The sign that begins with a character that begins no word or literal. -/
def otherSign (cursor : Cursor) (here : SourceCharacter) : Element :=
  match here.value with
  | '(' => sign cursor here .leftParenthesis
  | ')' => sign cursor here .rightParenthesis
  | '\x7b' => sign cursor here .leftBrace
  | '\x7d' => sign cursor here .rightBrace
  | ',' => sign cursor here .comma
  | ';' => sign cursor here .semicolon
  | '+' => sign cursor here .plus
  | '-' => sign cursor here .minus
  | '*' => sign cursor here .star
  | '%' => sign cursor here .percent
  | '=' => signWithEqual cursor here .assign .equalEqual
  | '!' => signWithEqual cursor here .bang .bangEqual
  | '<' => signWithEqual cursor here .less .lessEqual
  | '>' => signWithEqual cursor here .greater .greaterEqual
  | _ => sign cursor here .unknown

/-- What begins with the current character. -/
def element
    (cursor : Cursor)
    (here : SourceCharacter) :
    Except Failure Element :=
  if Text.isBlank here.value then
    .ok (.skipped cursor.advance)
  else if here.value = '/' then
    slash cursor here
  else if beginsWord here.value then
    .ok (word cursor here)
  else if here.value.isDigit then
    number cursor here
  else if here.value = '"' then
    string cursor here
  else
    .ok (otherSign cursor here)

/-- The token that closes every scanned text. -/
def endToken (cursor : Cursor) : Token :=
  ⟨.endOfInput, "", cursor.endPosition⟩

/--
The tokens from the cursor on, behind those already found, latest first.
Every element takes at least one character, so the characters ahead at the
start are more than enough rounds.
-/
def tokensFrom :
    List SourceCharacter →
      Cursor → List Token → Except Failure (List Token)
  | [], cursor, found => .ok ((endToken cursor :: found).reverse)
  | _ :: rounds, cursor, found =>
      match cursor.here? with
      | none => .ok ((endToken cursor :: found).reverse)
      | some here =>
          match element cursor here with
          | .error failure => .error failure
          | .ok (.skipped after) => tokensFrom rounds after found
          | .ok (.token next after) => tokensFrom rounds after (next :: found)

/-- The tokens of the text from the cursor on, closed by the end token. -/
def tokens (cursor : Cursor) : Except Failure (List Token) :=
  tokensFrom cursor.ahead cursor []

end Scan

/-- The tokens of a text taken as one line. -/
def tokensOfText (text : String) : Except Failure (List Token) :=
  Scan.tokens (Cursor.ofText text)

/-- The tokens of the file under a path. -/
def tokensOfFile
    (files : Files)
    (path : String) :
    Except Failure (List Token) :=
  match Cursor.ofFile files path with
  | (true, cursor) => Scan.tokens cursor
  | (false, _) => .error (.unreadable path)

end OwlScript
