import OwlScript.Parse.Program

namespace OwlScript

/-!
# Parsing by index

This is the parser with its bookkeeping.  It reads a slice of tokens through
the index of the next one, looks back at the token that it took last, counts
the calls that are open, and keeps the height of the expression that it gave
last.  What must not happen is a failure of its own: a look at a token outside
the slice, a counter that goes below zero, and a loop or a call that takes more
rounds than there are for it.
-/

/-- Why a descent stops without a result. -/
inductive Stop where
  | reported (fault : Diagnostic)
  | outsideSlice
  | belowZero
  | unfinished

/-- The slice, the bookkeeping and the events so far. -/
structure Descent where
  slice : List Token
  current : Nat
  depth : Nat
  height : Nat
  events : Array ParseEvent

namespace Descent

/-- The descent before the first token of a slice. -/
def ofSlice (slice : List Token) : Descent :=
  ⟨slice, 0, 0, 0, #[]⟩

/-- The next token, if the index is one of the slice. -/
def next? (descent : Descent) : Option Token :=
  descent.slice[descent.current]?

/-- Whether the next token is the end or there is none. -/
def isAtEnd (descent : Descent) : Bool :=
  match descent.next? with
  | some token => token.kind == .endOfInput
  | none => true

/-- Where the next token is, or else the last one, or else the beginning. -/
def place (descent : Descent) : Position :=
  match descent.next? with
  | some token => token.position
  | none => (ParseState.ofTokens descent.slice).ending

/-- More rounds than a loop on the slice can take. -/
def rounds (descent : Descent) : Nat :=
  descent.slice.length + 1

end Descent

/-- A parser by index. -/
abbrev Descend :=
  EStateM Stop Descent

namespace Descend

/-- The next token, if there is one. -/
def peek? : Descend (Option Token) := do
  return (← get).next?

/-- Whether the next token is of the kind. -/
def check (kind : TokenKind) : Descend Bool := do
  match (← get).next? with
  | some token => return token.kind == kind
  | none => return false

/-- Whether the token behind the next one is of the kind. -/
def checkNext (kind : TokenKind) : Descend Bool := do
  let descent ← get
  match descent.slice[descent.current + 1]? with
  | some token => return token.kind == kind
  | none => return false

/-- The token in front of the next one, or the first one at the beginning. -/
def previous : Descend Token := do
  let descent ← get
  match descent.slice[descent.current - 1]? with
  | some token => return token
  | none => throw .outsideSlice

/-- Moves on to the token behind, unless at the end, and looks back. -/
def advance : Descend Token := do
  modify fun descent =>
    if descent.isAtEnd then
      descent
    else
      { descent with current := descent.current + 1 }
  previous

/-- Adds an event to the trace. -/
def record (event : ParseEvent) : Descend Unit :=
  modify fun descent => { descent with events := descent.events.push event }

/-- Stops with a fault. -/
def report {α : Type} (fault : Diagnostic) : Descend α :=
  throw (.reported fault)

/-- Moves on if the next token is of the kind, and whether it was. -/
def accept (kind : TokenKind) : Descend Bool := do
  if ← check kind then
    let _ ← advance
    return true
  else
    return false

/-- Moves on if the next token is of the kind, and stops if it is not. -/
def expect (kind : TokenKind) (fault : SyntaxFault) : Descend Token := do
  if ← check kind then
    advance
  else
    match ← peek? with
    | some token =>
        if token.kind == .endOfInput then
          report (fault.located token.position)
        else
          report ((fault.located token.position).withNote
            ("found `" ++ token.lexeme ++ "`"))
    | none => report (fault.located (← get).place)

/-- Moves over semicolons as long as there are rounds. -/
def skipSemicolonsFrom : Nat → Descend Unit
  | 0 => throw .unfinished
  | rounds + 1 => do
      if ← accept .semicolon then
        skipSemicolonsFrom rounds

/-- Moves over all semicolons in front. -/
def skipSemicolons : Descend Unit := do
  skipSemicolonsFrom (← get).rounds

/-- Reduces the number of open calls. -/
def leave : Descend Unit := do
  if (← get).depth = 0 then
    throw .belowZero
  else
    modify fun descent => { descent with depth := descent.depth - 1 }

/-- Runs a parser and then the one that is to follow it in any case. -/
def followedBy {α : Type} (parser : Descend α) (afterwards : Descend Unit) :
    Descend α :=
  fun descent =>
    match parser descent with
    | .ok value final =>
        match afterwards final with
        | .ok _ left => .ok value left
        | .error stop left => .error stop left
    | .error stop final =>
        match afterwards final with
        | .ok _ left => .error stop left
        | .error other left => .error other left

/-- Runs a parser one level deeper, unless the limit is reached. -/
def nested {α : Type} (parser : Descend α) : Descend α := do
  let descent ← get
  if nestingLimit ≤ descent.depth then
    report (tooDeepAt descent.place)
  else
    modify fun descent => { descent with depth := descent.depth + 1 }
    followedBy parser leave

/-- Keeps the height of an expression just made, unless it is too high. -/
def sized (expression : Expression) (height : Nat) : Descend Expression := do
  if nestingLimit < height then
    report (tooDeepAt expression.position)
  else
    modify fun descent => { descent with height := height }
    return expression

/-- Moves over the first operator of the level that is next. -/
def acceptOperator : OperatorLevel → Descend (Option BinaryOperator)
  | [] => return none
  | (kind, operator) :: others => do
      if ← accept kind then
        return some operator
      else
        acceptOperator others

/-- Reads the operators of a level, and an operand behind each. -/
def chainFrom
    (level : OperatorLevel)
    (operand : Descend Expression) :
    Nat → Expression → Descend Expression
  | 0, _ => throw .unfinished
  | rounds + 1, left => do
      match ← acceptOperator level with
      | none => return left
      | some operator =>
          let leftHeight := (← get).height
          let right ← operand
          let rightHeight := (← get).height
          let joined ← sized (.binary operator left right)
            (max leftHeight rightHeight + 1)
          chainFrom level operand rounds joined

/-- Reads operands with operators of the level between them. -/
def chain
    (level : OperatorLevel)
    (operand : Descend Expression) :
    Descend Expression := do
  let first ← operand
  chainFrom level operand (← get).rounds first

/-- Moves on and gives an expression without operands. -/
def leaf (expression : Expression) : Descend Expression := do
  let _ ← advance
  sized expression 1

/-- Reads a literal, a variable or a group. -/
def primary (inside : Descend Expression) : Descend Expression := do
  match ← peek? with
  | none =>
      report (SyntaxFault.expectedExpression.located (← get).place)
  | some token =>
      record (.primary token.position token.kind)
      match token.kind with
      | .integer =>
          match Number.readInteger token.lexeme with
          | some number => leaf (.literal token.position (.int number))
          | none =>
              report (SyntaxFault.integerOutOfRange.located token.position)
      | .float =>
          match Number.readFloat token.lexeme with
          | some number => leaf (.literal token.position (.float number))
          | none => report (SyntaxFault.malformedFloat.located token.position)
      | .string => leaf (.literal token.position (.string token.lexeme))
      | .keyword .trueWord => leaf (.literal token.position (.bool true))
      | .keyword .falseWord => leaf (.literal token.position (.bool false))
      | .keyword .nilWord => leaf (.literal token.position .nil)
      | .identifier => leaf (.reference token.position token.lexeme)
      | .leftParenthesis =>
          let _ ← advance
          let inner ← inside
          let innerHeight := (← get).height
          let _ ← expect .rightParenthesis .expectedGroupEnd
          sized (.group token.position inner) (innerHeight + 1)
      | .endOfInput =>
          report (SyntaxFault.unexpectedEnd.located token.position)
      | _ =>
          report
            ((SyntaxFault.unexpectedToken token.lexeme).located token.position)

/-- Moves over an operator in front of an operand. -/
def acceptUnary : Descend (Option UnaryOperator) := do
  if ← accept .minus then
    return some .negate
  else if ← accept .bang then
    return some .not
  else if ← accept (.keyword .notWord) then
    return some .not
  else
    return none

/-- Reads an operator with its operand, or else a primary expression. -/
def unary (operand inside : Descend Expression) : Descend Expression := do
  match ← acceptUnary with
  | none => primary inside
  | some operator =>
      let sign ← previous
      let inner ← operand
      let innerHeight := (← get).height
      sized (.unary sign.position operator inner) (innerHeight + 1)

/-- Reads an expression of the loosest level over the given unary ones. -/
def overAllLevels (operand : Descend Expression) : Descend Expression :=
  OperatorLevel.all.foldl (fun tighter level => chain level tighter) operand

end Descend

/-- The parsers by index for what opens a nesting level. -/
structure Descents where
  expression : Descend Expression
  operand : Descend Expression
  body : Descend (List Statement)
  branch : Descend Statement

namespace Descend

/-- Reads statements between braces. -/
def block (descents : Descents) : Descend (List Statement) := do
  let _ ← expect .leftBrace .expectedBlockStart
  let body ← descents.body
  let _ ← expect .rightBrace .expectedBlockEnd
  return body

/-- Reads the binding of a variable from its keyword on. -/
def bindStatement (descents : Descents) : Descend Statement := do
  let keyword ← advance
  let name ← expect .identifier .expectedName
  let _ ← expect .assign .expectedAssign
  let value ← descents.expression
  return .bind keyword.position name.lexeme value

/-- Reads an assignment from the name of its target on. -/
def assignStatement (descents : Descents) : Descend Statement := do
  let target ← advance
  let _ ← advance
  let value ← descents.expression
  return .assign target.position target.lexeme value

/-- Reads further arguments as long as a comma comes first. -/
def argumentsFrom
    (descents : Descents) :
    Nat → List Expression → Descend (List Expression)
  | 0, _ => throw .unfinished
  | rounds + 1, found => do
      if ← accept .comma then
        let argument ← descents.expression
        argumentsFrom descents rounds (argument :: found)
      else
        return found.reverse

/-- Reads a print statement from its keyword on. -/
def printStatement (descents : Descents) : Descend Statement := do
  let keyword ← advance
  let first ← descents.expression
  let arguments ← argumentsFrom descents (← get).rounds [first]
  return .print keyword.position arguments

/-- Reads what may follow the first block of a conditional statement. -/
def elseBody (descents : Descents) :
    Descend (Option (List Statement)) := do
  if ← accept (.keyword .elseWord) then
    if ← check (.keyword .ifWord) then
      let branch ← descents.branch
      return some [branch]
    else
      let body ← block descents
      return some body
  else
    return none

/-- Reads a conditional statement from its keyword on. -/
def branchStatement (descents : Descents) : Descend Statement := do
  let keyword ← advance
  let condition ← descents.expression
  let thenBody ← block descents
  let otherwise ← elseBody descents
  return .branch keyword.position condition thenBody otherwise

/-- Reads a loop from its keyword on. -/
def loopStatement (descents : Descents) : Descend Statement := do
  let keyword ← advance
  let condition ← descents.expression
  let body ← block descents
  return .loop keyword.position condition body

/-- Reads an expression as a statement. -/
def evaluateStatement (descents : Descents) : Descend Statement := do
  let value ← descents.expression
  return .evaluate value

/-- Reads one statement of any kind. -/
def statement (descents : Descents) : Descend Statement := do
  match ← peek? with
  | none => evaluateStatement descents
  | some token =>
      record (.statement token.position token.lexeme)
      match token.kind with
      | .keyword .letWord => bindStatement descents
      | .keyword .printWord => printStatement descents
      | .keyword .ifWord => branchStatement descents
      | .keyword .whileWord => loopStatement descents
      | .identifier =>
          if ← checkNext .assign then
            assignStatement descents
          else
            evaluateStatement descents
      | _ => evaluateStatement descents

/-- Whether the next token is of the closing kind, or at the end. -/
def atClosing (closing : Option TokenKind) : Descend Bool := do
  let isClosing ←
    match closing with
    | some kind => check kind
    | none => pure false
  return isClosing || (← get).isAtEnd

/-- Reads statements with semicolons around them up to a closing token. -/
def statementsFrom
    (descents : Descents)
    (closing : Option TokenKind) :
    Nat → List Statement → Descend (List Statement)
  | 0, _ => throw .unfinished
  | rounds + 1, found => do
      skipSemicolons
      if ← atClosing closing then
        return found.reverse
      else
        let next ← statement descents
        statementsFrom descents closing rounds (next :: found)

/-- Reads the statements of a program or of a block. -/
def statements
    (descents : Descents)
    (closing : Option TokenKind) :
    Descend (List Statement) := do
  statementsFrom descents closing (← get).rounds []

end Descend

namespace Descents

/-- The parsers where no more calls can be made. -/
def unfinished : Descents where
  expression := throw .unfinished
  operand := throw .unfinished
  body := throw .unfinished
  branch := throw .unfinished

/-- The parsers that call the given ones one level deeper. -/
def around (descents : Descents) : Descents where
  expression :=
    .nested (.overAllLevels (.unary descents.operand descents.expression))
  operand := .nested (.unary descents.operand descents.expression)
  body := .nested (.statements descents (some .rightBrace))
  branch := .nested (.branchStatement descents)

/-- The parsers that can make the given number of calls into one another. -/
def within : Nat → Descents
  | 0 => unfinished
  | calls + 1 => around (within calls)

end Descents

namespace Descent

/--
What comes of a slice.  One call more than the levels allowed is made: the one
that is refused.
-/
def start (slice : List Token) : Except Stop Parsing :=
  let descend := Descend.statements (Descents.within (nestingLimit + 1)) none
  match descend (ofSlice slice) with
  | .ok statements final =>
      .ok ⟨.ok ⟨statements⟩, final.events.push (.parsed statements.length)⟩
  | .error (.reported fault) final => .ok ⟨.error fault, final.events⟩
  | .error stop _ => .error stop

end Descent

end OwlScript
