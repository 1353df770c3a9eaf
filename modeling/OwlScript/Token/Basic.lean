import OwlScript.Position
import OwlScript.Run.Sink

namespace OwlScript

/-!
# Tokens

A token is one word, number, text or sign of a script, with its spelling and
the position of its first character.  The listing of tokens has one entry for
each, in order.
-/

/-- The words that are no identifiers. -/
inductive Keyword where
  | letWord
  | printWord
  | ifWord
  | elseWord
  | whileWord
  | trueWord
  | falseWord
  | nilWord
  | andWord
  | orWord
  | notWord
  deriving Repr, DecidableEq

namespace Keyword

/-- Every keyword. -/
def all : List Keyword :=
  [.letWord, .printWord, .ifWord, .elseWord, .whileWord, .trueWord,
    .falseWord, .nilWord, .andWord, .orWord, .notWord]

/-- The keyword as it is written in a script. -/
def spelling : Keyword → String
  | .letWord => "let"
  | .printWord => "print"
  | .ifWord => "if"
  | .elseWord => "else"
  | .whileWord => "while"
  | .trueWord => "true"
  | .falseWord => "false"
  | .nilWord => "nil"
  | .andWord => "and"
  | .orWord => "or"
  | .notWord => "not"

/-- The keyword as it is named in listings. -/
def name : Keyword → String
  | .letWord => "Let"
  | .printWord => "Print"
  | .ifWord => "If"
  | .elseWord => "Else"
  | .whileWord => "While"
  | .trueWord => "True"
  | .falseWord => "False"
  | .nilWord => "Nil"
  | .andWord => "And"
  | .orWord => "Or"
  | .notWord => "Not"

/-- The keyword with a spelling, if there is one. -/
def ofSpelling? (word : String) : Option Keyword :=
  all.find? fun keyword => keyword.spelling == word

end Keyword

/-- What a token is, apart from its spelling. -/
inductive TokenKind where
  | identifier
  | integer
  | float
  | string
  | keyword (word : Keyword)
  | leftParenthesis
  | rightParenthesis
  | leftBrace
  | rightBrace
  | comma
  | semicolon
  | assign
  | plus
  | minus
  | star
  | slash
  | percent
  | bang
  | bangEqual
  | equalEqual
  | less
  | lessEqual
  | greater
  | greaterEqual
  /-- A character that begins no other token. -/
  | unknown
  /-- The end of the script. -/
  | endOfInput
  deriving Repr, DecidableEq

namespace TokenKind

/-- Every kind of token. -/
def all : List TokenKind :=
  [.identifier, .integer, .float, .string] ++ Keyword.all.map .keyword ++
    [.leftParenthesis, .rightParenthesis, .leftBrace, .rightBrace, .comma,
      .semicolon, .assign, .plus, .minus, .star, .slash, .percent, .bang,
      .bangEqual, .equalEqual, .less, .lessEqual, .greater, .greaterEqual,
      .unknown, .endOfInput]

/-- The kind as it is named in listings. -/
def name : TokenKind → String
  | .identifier => "Identifier"
  | .integer => "Integer"
  | .float => "Float"
  | .string => "String"
  | .keyword word => "Keyword(" ++ word.name ++ ")"
  | .leftParenthesis => "LParen"
  | .rightParenthesis => "RParen"
  | .leftBrace => "LBrace"
  | .rightBrace => "RBrace"
  | .comma => "Comma"
  | .semicolon => "Semicolon"
  | .assign => "Assign"
  | .plus => "Plus"
  | .minus => "Minus"
  | .star => "Star"
  | .slash => "Slash"
  | .percent => "Percent"
  | .bang => "Bang"
  | .bangEqual => "BangEqual"
  | .equalEqual => "EqualEqual"
  | .less => "Less"
  | .lessEqual => "LessEqual"
  | .greater => "Greater"
  | .greaterEqual => "GreaterEqual"
  | .unknown => "Unknown"
  | .endOfInput => "Eof"

/-- The kind with a name, if there is one. -/
def ofName? (name : String) : Option TokenKind :=
  all.find? fun kind => kind.name == name

end TokenKind

/--
One token.  The lexeme is its spelling in the script, except that a string has
the text it stands for, and the end of the script has none.
-/
structure Token where
  kind : TokenKind
  lexeme : String
  position : Position
  deriving Repr, DecidableEq

/-- A padded text is the text and the padding. -/
theorem toList_pushn (text : String) (character : Char) (count : Nat) :
    (text.pushn character count).toList =
      text.toList ++ List.replicate count character := by
  induction count with
  | zero =>
      simp [String.pushn, Nat.repeat]
  | succ count hypothesis =>
      have next :
          text.pushn character (count + 1) =
            (text.pushn character count).push character :=
        rfl
      rw [next, String.toList_push, hypothesis, List.replicate_succ',
        List.append_assoc]

namespace Token

/-- The width that positions are padded to in a listing. -/
def positionWidth : Nat :=
  7

/-- The position of the token, padded with spaces. -/
def placeText (token : Token) : String :=
  let place := token.position.text
  place.pushn ' ' (positionWidth - place.length)

/-- The entry of the token in a listing. -/
def entry (token : Token) : String :=
  match token.kind with
  | .endOfInput => token.placeText ++ " Eof"
  | kind =>
      token.placeText ++ " " ++ kind.name ++ " `" ++ token.lexeme ++ "`"

/-- The listing of tokens, each entry followed by a line feed. -/
def listing (tokens : List Token) : String :=
  String.join (tokens.map fun token => token.entry ++ "\n")

/-- Writes the entry of the token and a line feed. -/
def write (token : Token) (sink : Sink) : Bool × Sink :=
  sink.write (token.entry ++ "\n")

/-- Writes the listing of tokens, one entry after the other. -/
def writeListing (tokens : List Token) (sink : Sink) : Bool × Sink :=
  Sink.writeAll write tokens sink

end Token

end OwlScript
