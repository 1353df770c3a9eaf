import OwlScript.Source.Buffer
import OwlScript.Token.Scan

namespace OwlScript

/-!
# Scanning a buffer

Here tokens are found by a scanner that walks a buffer one character at a time.
It sees the end of the text only where the current character looks like the end
and has no position, and the end of a line only by the number of the line.  It
moves on in loops and sometimes one character back, and it keeps where it stood
before it moved on last.  What must not happen is a move back that fails or that
does not lead there, and a loop that takes more rounds than there are for it.
-/

/-- Why a scanner stops without its tokens. -/
inductive ScanStop where
  | reported (failure : Failure)
  | misplaced
  | unfinished
  deriving DecidableEq

/-- A buffer that is scanned, and the one before it was moved on last. -/
structure Scanner where
  buffer : Buffer
  before : Buffer

namespace Scanner

/-- The scanner of a buffer that has not been moved yet. -/
def ofBuffer (buffer : Buffer) : Scanner :=
  ⟨buffer, buffer⟩

/--
Whether the buffer is at the end.  A marker in the text looks like the end as
well, but it has a position.
-/
def atEnd (scanner : Scanner) : Bool :=
  scanner.buffer.looksEnded && scanner.buffer.position?.isNone

/-- Whether the buffer stands on a character of the given line. -/
def isOnLine (scanner : Scanner) (line : Nat) : Bool :=
  !scanner.atEnd && scanner.buffer.lineNumber == line

/-- More rounds than a loop on the buffer can take. -/
def rounds (scanner : Scanner) : Nat :=
  scanner.buffer.length + 1

end Scanner

/-- A step of a scanner. -/
abbrev Scans :=
  EStateM ScanStop Scanner

namespace Scans

/-- The current character. -/
def current : Scans Char := do
  return (← get).buffer.current

/-- Moves one character on, and gives the character there. -/
def moveOn : Scans Char := do
  let scanner ← get
  let (character, after) := scanner.buffer.advance
  set (Scanner.mk after scanner.buffer)
  return character

/-- Moves one character on, and gives it if it is on the given line. -/
def moveOnLine (line : Nat) : Scans (Option Char) := do
  let character ← moveOn
  if (← get).isOnLine line then
    return some character
  else
    return none

/-- Moves back to where the scanner stood before it moved on last. -/
def moveBack : Scans Unit := do
  let scanner ← get
  match scanner.buffer.retreat with
  | (.error failure, _) => throw (.reported failure)
  | (.ok (), back) =>
      if back = scanner.before then
        set { scanner with buffer := back }
      else
        throw .misplaced

/-- Moves on to the end of the given line. -/
def skipLineFrom (line : Nat) : Nat → Scans Unit
  | 0 => throw .unfinished
  | rounds + 1 => do
      if (← get).isOnLine line then
        let _ ← moveOn
        skipLineFrom line rounds

/--
Moves over a blank character or a comment, and whether there was one.  A slash
that begins no comment is given back.
-/
def skipElement : Scans Bool := do
  let scanner ← get
  let line := scanner.buffer.lineNumber
  if scanner.atEnd then
    return false
  else if Text.isBlank scanner.buffer.current then
    let _ ← moveOn
    return true
  else if scanner.buffer.current = '/' then
    if (← moveOnLine line) = some '/' then
      skipLineFrom line scanner.rounds
      return true
    else
      moveBack
      return false
  else
    return false

/-- Moves over blank characters and comments as long as there are rounds. -/
def skipTriviaFrom : Nat → Scans Unit
  | 0 => throw .unfinished
  | rounds + 1 => do
      if ← skipElement then
        skipTriviaFrom rounds

/-- Moves over all blank characters and comments in front. -/
def skipTrivia : Scans Unit := do
  skipTriviaFrom (← get).rounds

/-- Takes the current character as a token by itself. -/
def single (kind : TokenKind) (position : Position) : Scans Token := do
  let character ← current
  let _ ← moveOn
  return ⟨kind, String.singleton character, position⟩

/-- Takes the current character, and an equals sign directly behind it. -/
def withEqual
    (bare paired : TokenKind)
    (position : Position)
    (line : Nat) :
    Scans Token := do
  let character ← current
  if (← moveOnLine line) = some '=' then
    let _ ← moveOn
    return ⟨paired, String.ofList [character, '='], position⟩
  else
    return ⟨bare, String.singleton character, position⟩

/-- Takes the characters of a word behind those found, latest first. -/
def wordFrom (line : Nat) : Nat → List Char → Scans (List Char)
  | 0, _ => throw .unfinished
  | rounds + 1, found => do
      match (← moveOnLine line).filter Scan.continuesWord with
      | some character => wordFrom line rounds (character :: found)
      | none => return found.reverse

/-- Takes an identifier or a keyword. -/
def word (position : Position) (line : Nat) : Scans Token := do
  let scanner ← get
  let found ← wordFrom line scanner.rounds [scanner.buffer.current]
  let lexeme := String.ofList found
  return ⟨Scan.wordKind lexeme, lexeme, position⟩

/--
Takes the digits and the point of a number behind those found, latest first,
and whether there is a point.  A point without a digit behind it is given back.
-/
def numberFrom
    (line : Nat) :
    Nat → Bool → List Char → Scans (Bool × List Char)
  | 0, _, _ => throw .unfinished
  | rounds + 1, hasPoint, found => do
      let character ← moveOnLine line
      match character.filter Char.isDigit with
      | some digit => numberFrom line rounds hasPoint (digit :: found)
      | none =>
          if character = some '.' ∧ hasPoint = false then
            match (← moveOnLine line).filter Char.isDigit with
            | some digit => numberFrom line rounds true (digit :: '.' :: found)
            | none =>
                moveBack
                return (hasPoint, found.reverse)
          else
            return (hasPoint, found.reverse)

/-- Takes a number. -/
def number (position : Position) (line : Nat) : Scans Token := do
  let scanner ← get
  let (hasPoint, found) ←
    numberFrom line scanner.rounds false [scanner.buffer.current]
  let kind := if hasPoint then TokenKind.float else TokenKind.integer
  return ⟨kind, String.ofList found, position⟩

/--
Takes the characters of a string up to its closing quote, and gives what they
stand for behind what is decoded already, latest first.
-/
def stringFrom (line : Nat) : Nat → List Char → Scans (Option (List Char))
  | 0, _ => throw .unfinished
  | rounds + 1, decoded => do
      match ← moveOnLine line with
      | none => return none
      | some character =>
          if character = '"' then
            let _ ← moveOn
            return some decoded.reverse
          else if character = '\\' then
            match ← moveOnLine line with
            | none => return none
            | some escaped =>
                stringFrom line rounds (Scan.unescape escaped :: decoded)
          else
            stringFrom line rounds (character :: decoded)

/-- Takes a string, which must end on the line where it begins. -/
def string (position : Position) (line : Nat) : Scans Token := do
  match ← stringFrom line (← get).rounds [] with
  | some text => return ⟨.string, String.ofList text, position⟩
  | none => throw (.reported (Scan.unterminatedString position))

/-- Takes a sign of one or two characters. -/
def sign (position : Position) (line : Nat) (first : Char) : Scans Token :=
  match first with
  | '(' => single .leftParenthesis position
  | ')' => single .rightParenthesis position
  | '\x7b' => single .leftBrace position
  | '\x7d' => single .rightBrace position
  | ',' => single .comma position
  | ';' => single .semicolon position
  | '+' => single .plus position
  | '-' => single .minus position
  | '*' => single .star position
  | '/' => single .slash position
  | '%' => single .percent position
  | '=' => withEqual .assign .equalEqual position line
  | '!' => withEqual .bang .bangEqual position line
  | '<' => withEqual .less .lessEqual position line
  | '>' => withEqual .greater .greaterEqual position line
  | _ => single .unknown position

/-- Takes the token that begins with the current character. -/
def tokenAt (position : Position) : Scans Token := do
  let scanner ← get
  let line := scanner.buffer.lineNumber
  let first := scanner.buffer.current
  if Scan.beginsWord first then
    word position line
  else if first.isDigit then
    number position line
  else if first = '"' then
    string position line
  else
    sign position line first

/-- Takes the next token, unless there is none in front of the end. -/
def next : Scans (Option Token) := do
  skipTrivia
  match (← get).buffer.position? with
  | none => return none
  | some position =>
      let token ← tokenAt position
      return some token

/-- Takes all tokens behind those found, latest first, and closes them. -/
def tokensFrom : Nat → List Token → Scans (List Token)
  | 0, _ => throw .unfinished
  | rounds + 1, found => do
      match ← next with
      | some token => tokensFrom rounds (token :: found)
      | none =>
          let ending := (← get).buffer.endPosition
          return (⟨.endOfInput, "", ending⟩ :: found).reverse

end Scans

namespace Scanner

/-- The tokens of the text from where a buffer stands. -/
def scan (buffer : Buffer) : Except ScanStop (List Token) :=
  let scanner := ofBuffer buffer
  match Scans.tokensFrom scanner.rounds [] scanner with
  | .ok tokens _ => .ok tokens
  | .error stop _ => .error stop

/-- The tokens of a text, whatever was loaded before. -/
def scanText (text : String) (buffer : Buffer) : Except ScanStop (List Token) :=
  scan (buffer.loadText text)

/-- The tokens of the file under a path, whatever was loaded before. -/
def scanFile
    (files : Files)
    (path : String)
    (buffer : Buffer) :
    Except ScanStop (List Token) :=
  match buffer.loadFile files path with
  | (true, loaded) => scan loaded
  | (false, _) => .error (.reported (.unreadable path))

end Scanner

end OwlScript
