import OwlScript.Diagnostic
import OwlScript.Trace

namespace OwlScript

/-!
# Reading tokens

A parser takes tokens from the front of a list, records events, and may stop
with a diagnostic.  A list of tokens need not be closed by an end token: where
no token is left, a fault is placed at the last token there was.
-/

/-- The faults that the parser can find. -/
inductive SyntaxFault where
  | expectedExpression
  | expectedBlockStart
  | expectedBlockEnd
  | expectedName
  | expectedAssign
  | expectedGroupEnd
  | integerOutOfRange
  | malformedFloat
  | unexpectedEnd
  | unexpectedToken (lexeme : String)
  | tooDeep
  deriving Repr, DecidableEq

/-- The deepest nesting, and the greatest height of an expression, allowed. -/
def nestingLimit : Nat :=
  256

namespace SyntaxFault

/-- The fault in words. -/
def message : SyntaxFault → String
  | .expectedExpression => "expected expression"
  | .expectedBlockStart => "expected `\x7b` to start block"
  | .expectedBlockEnd => "expected `\x7d` to close block"
  | .expectedName => "expected variable name after `let`"
  | .expectedAssign => "expected `=` after variable name"
  | .expectedGroupEnd => "expected `)` after expression"
  | .integerOutOfRange => "integer literal out of range"
  | .malformedFloat => "malformed float literal"
  | .unexpectedEnd => "unexpected end of input"
  | .unexpectedToken lexeme => "unexpected token `" ++ lexeme ++ "`"
  | .tooDeep => "expression nested too deeply"

/-- The fault at a place. -/
def located (fault : SyntaxFault) (position : Position) : Diagnostic :=
  .located .parser fault.message position

end SyntaxFault

/-- The diagnostic for nesting beyond the limit. -/
def tooDeepAt (position : Position) : Diagnostic :=
  (SyntaxFault.tooDeep.located position).withNote
    ("nesting is limited to " ++ toString nestingLimit ++ " levels")

/--
The tokens still to be read, where a fault is placed when none is left, and
the events so far.
-/
structure ParseState where
  rest : List Token
  ending : Position
  events : Array ParseEvent

namespace ParseState

/-- The state before the first token is read. -/
def ofTokens (tokens : List Token) : ParseState where
  rest := tokens
  ending :=
    match tokens.getLast? with
    | some token => token.position
    | none => Position.start
  events := #[]

end ParseState

/-- A parser: it changes the state and gives a result or a diagnostic. -/
abbrev Parse :=
  EStateM Diagnostic ParseState

namespace Parse

/-- The next token, if one is left. -/
def peek? : Parse (Option Token) := do
  return (← get).rest.head?

/-- The token behind the next one, if two are left. -/
def peekSecond? : Parse (Option Token) := do
  return (← get).rest[1]?

/-- The tokens left. -/
def remaining : Parse (List Token) := do
  return (← get).rest

/-- The position of the next token, or else the one for the end. -/
def place : Parse Position := do
  let state ← get
  match state.rest with
  | token :: _ => return token.position
  | [] => return state.ending

/-- Takes the next token off. -/
def advance : Parse Unit :=
  modify fun state => { state with rest := state.rest.tail }

/-- Adds an event to the trace. -/
def record (event : ParseEvent) : Parse Unit :=
  modify fun state => { state with events := state.events.push event }

/-- Whether the next token is of the kind. -/
def nextIs (kind : TokenKind) : Parse Bool := do
  match ← peek? with
  | some token => return token.kind == kind
  | none => return false

/-- Whether the token behind the next one is of the kind. -/
def secondIs (kind : TokenKind) : Parse Bool := do
  match ← peekSecond? with
  | some token => return token.kind == kind
  | none => return false

/-- Takes the next token off if it is of the kind, and whether it was. -/
def accept (kind : TokenKind) : Parse Bool := do
  if ← nextIs kind then
    advance
    return true
  else
    return false

/--
Takes the next token off if it is of the kind, and stops with the fault if it
is not.  A token other than the end is named in a note.
-/
def expect (kind : TokenKind) (fault : SyntaxFault) : Parse Token := do
  match ← peek? with
  | some token =>
      if token.kind == kind then
        advance
        return token
      else if token.kind == .endOfInput then
        throw (fault.located token.position)
      else
        throw ((fault.located token.position).withNote
          ("found `" ++ token.lexeme ++ "`"))
  | none => throw (fault.located (← get).ending)

/-- Takes off all semicolons in front. -/
def skipSemicolons : Parse Unit :=
  modify fun state =>
    { state with rest := state.rest.dropWhile (·.kind == .semicolon) }

/-- Stops because of nesting beyond the limit, at the next token. -/
def refuseDepth {α : Type} : Parse α := do
  throw (tooDeepAt (← place))

end Parse

end OwlScript
