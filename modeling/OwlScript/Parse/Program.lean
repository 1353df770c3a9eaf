import OwlScript.Parse.Expression

namespace OwlScript

/-!
# Reading programs

Statements are read by the token they begin with.  Whatever is read one
nesting level further in comes from a tower of parsers that has one storey for
each level allowed; at the top of the tower all parsers refuse.
-/

/-- The parsers for what opens a nesting level. -/
structure NestedParsers where
  /-- The inside of a group, and every expression of a statement. -/
  expression : Parse SizedExpression
  /-- The operand behind an operator in front. -/
  operand : Parse SizedExpression
  /-- The statements between two braces. -/
  body : Parse (List Statement)
  /-- The conditional statement behind an `else`. -/
  branch : Parse Statement

namespace NestedParsers

/-- The parsers beyond the last level allowed. -/
def refusing : NestedParsers where
  expression := Parse.refuseDepth
  operand := Parse.refuseDepth
  body := Parse.refuseDepth
  branch := Parse.refuseDepth

end NestedParsers

namespace Parse

/-- Reads statements between braces, one nesting level further in. -/
def block (nested : NestedParsers) : Parse (List Statement) := do
  let _ ← expect .leftBrace .expectedBlockStart
  let body ← nested.body
  let _ ← expect .rightBrace .expectedBlockEnd
  return body

/-- Reads the binding of a variable from its keyword on. -/
def bindStatement (nested : NestedParsers) : Parse Statement := do
  let position ← place
  advance
  let name ← expect .identifier .expectedName
  let _ ← expect .assign .expectedAssign
  let value ← nested.expression
  return .bind position name.lexeme value.expression

/-- Reads an assignment from the name of its target on. -/
def assignStatement
    (nested : NestedParsers)
    (target : Token) :
    Parse Statement := do
  advance
  advance
  let value ← nested.expression
  return .assign target.position target.lexeme value.expression

/--
Reads further arguments as long as a comma comes first.  Every round takes at
least one token, so the tokens left at the start are enough rounds.
-/
def argumentsFrom
    (nested : NestedParsers) :
    List Token → List Expression → Parse (List Expression)
  | [], found => return found.reverse
  | _ :: rounds, found => do
      if ← accept .comma then
        let argument ← nested.expression
        argumentsFrom nested rounds (argument.expression :: found)
      else
        return found.reverse

/-- Reads a print statement from its keyword on. -/
def printStatement (nested : NestedParsers) : Parse Statement := do
  let position ← place
  advance
  let first ← nested.expression
  let arguments ← argumentsFrom nested (← remaining) [first.expression]
  return .print position arguments

/--
Reads what may follow the first block of a conditional statement: nothing, or
`else` with a block or with one more conditional statement.
-/
def elseBody (nested : NestedParsers) : Parse (Option (List Statement)) := do
  if ← accept (.keyword .elseWord) then
    if ← nextIs (.keyword .ifWord) then
      let branch ← nested.branch
      return some [branch]
    else
      let body ← block nested
      return some body
  else
    return none

/-- Reads a conditional statement from its keyword on. -/
def branchStatement (nested : NestedParsers) : Parse Statement := do
  let position ← place
  advance
  let condition ← nested.expression
  let thenBody ← block nested
  let otherwise ← elseBody nested
  return .branch position condition.expression thenBody otherwise

/-- Reads a loop from its keyword on. -/
def loopStatement (nested : NestedParsers) : Parse Statement := do
  let position ← place
  advance
  let condition ← nested.expression
  let body ← block nested
  return .loop position condition.expression body

/-- Reads an expression as a statement. -/
def evaluateStatement (nested : NestedParsers) : Parse Statement := do
  let value ← nested.expression
  return .evaluate value.expression

/-- Reads one statement of any kind. -/
def statement (nested : NestedParsers) : Parse Statement := do
  match ← peek? with
  | none => evaluateStatement nested
  | some token =>
      record (.statement token.position token.lexeme)
      match token.kind with
      | .keyword .letWord => bindStatement nested
      | .keyword .printWord => printStatement nested
      | .keyword .ifWord => branchStatement nested
      | .keyword .whileWord => loopStatement nested
      | .identifier =>
          if ← secondIs .assign then
            assignStatement nested token
          else
            evaluateStatement nested
      | _ => evaluateStatement nested

/--
Whether no token is left, or the next one is the end or of a closing kind.
-/
def atClosing (closing : Option TokenKind) : Parse Bool := do
  match ← peek? with
  | none => return true
  | some token =>
      return token.kind == .endOfInput || some token.kind == closing

/--
Reads statements up to the end or a closing token, with any semicolons around
them.  Every round takes at least one token, so the tokens left at the start
are enough rounds.
-/
def statementsFrom
    (nested : NestedParsers)
    (closing : Option TokenKind) :
    List Token → List Statement → Parse (List Statement)
  | [], found => return found.reverse
  | _ :: rounds, found => do
      skipSemicolons
      if ← atClosing closing then
        return found.reverse
      else
        let next ← statement nested
        statementsFrom nested closing rounds (next :: found)

/-- Reads the statements of a program or of a block. -/
def statements
    (nested : NestedParsers)
    (closing : Option TokenKind) :
    Parse (List Statement) := do
  statementsFrom nested closing (← remaining) []

end Parse

namespace NestedParsers

/-- The parsers one level further out than the given ones. -/
def around (nested : NestedParsers) : NestedParsers where
  expression :=
    Parse.overAllLevels (Parse.unary nested.operand nested.expression)
  operand := Parse.unary nested.operand nested.expression
  body := Parse.statements nested (some .rightBrace)
  branch := Parse.branchStatement nested

/-- The parsers that allow the given number of further levels. -/
def within : Nat → NestedParsers
  | 0 => refusing
  | levels + 1 => around (within levels)

end NestedParsers

/-- What comes of parsing: a program or a diagnostic, and the trace. -/
structure Parsing where
  outcome : Except Diagnostic Program
  events : Array ParseEvent

namespace Program

/--
Parses tokens up to the first end token, or all of them if there is none.  The
events up to a fault are kept.
-/
def parse (tokens : List Token) : Parsing :=
  let reading := Parse.statements (NestedParsers.within nestingLimit) none
  match reading (ParseState.ofTokens tokens) with
  | .ok statements state =>
      ⟨.ok ⟨statements⟩, state.events.push (.parsed statements.length)⟩
  | .error fault state => ⟨.error fault, state.events⟩

/-- The program that tokens make, or the first fault. -/
def ofTokens (tokens : List Token) : Except Diagnostic Program :=
  (parse tokens).outcome

end Program

end OwlScript
