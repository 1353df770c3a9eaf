import OwlScript.Token.Basic
import OwlScript.Value.Basic

namespace OwlScript

/-!
# Traces

Parsing and running a script leave a trace of events.  An event is written as
one line that names its target, what happened, and the fields of the event.
-/

/-- What the parser reports while it reads tokens. -/
inductive ParseEvent where
  /-- A statement is about to be read from this token on. -/
  | statement (position : Position) (lexeme : String)
  /-- A primary expression is about to be read from this token on. -/
  | primary (position : Position) (kind : TokenKind)
  /-- The whole program has been read. -/
  | parsed (statements : Nat)
  deriving Repr, DecidableEq

/-- What the interpreter reports while it runs a program. -/
inductive RunEvent where
  /-- A run begins. -/
  | begin (run statements : Nat)
  /-- A statement is about to be executed. -/
  | execute (form : String) (position : Position)
  /-- A variable is about to get a value. -/
  | bind (name : String) (value : Value)
  deriving DecidableEq

/-- An event of either kind. -/
inductive TraceEvent where
  | parse (event : ParseEvent)
  | run (event : RunEvent)
  deriving DecidableEq

namespace ParseEvent

/-- The event as it follows the target on its line. -/
def text : ParseEvent → String
  | .statement position lexeme =>
      "statement pos=" ++ position.text ++ " lexeme=" ++ lexeme
  | .primary position kind =>
      "primary pos=" ++ position.text ++ " kind=" ++ kind.name
  | .parsed statements => "parsed program statements=" ++ toString statements

end ParseEvent

namespace RunEvent

/-- The event as it follows the target on its line. -/
def text : RunEvent → String
  | .begin run statements =>
      "begin run=" ++ toString run ++ " statements=" ++ toString statements
  | .execute form position => "execute " ++ form ++ " pos=" ++ position.text
  | .bind name value => "bind name=" ++ name ++ " value=" ++ value.text

end RunEvent

namespace TraceEvent

/-- The event as one line with a line feed. -/
def line : TraceEvent → String
  | .parse event => "TRACE owl::parser: " ++ event.text ++ "\n"
  | .run event => "TRACE owl::interpreter: " ++ event.text ++ "\n"

end TraceEvent

end OwlScript
