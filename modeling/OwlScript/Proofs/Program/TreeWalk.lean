import OwlScript.Program.Basic
import OwlScript.Trace

namespace OwlScript

/-!
# Walks over programs

A walk goes over a program from its first statement on, each node before those
inside it, and along the tokens that the program was read from.  It meets the
statements and the literals, variables and groups, and notes where each of them
stands and the token that it begins with.  One statement is not met: the
conditional statement that stands directly behind an `else`.
-/

/-- The tokens ahead of a walk, and what it has noted so far. -/
structure Walk where
  ahead : List Token
  events : List ParseEvent
  deriving Repr, DecidableEq

namespace Walk

/-- The walk before the first of some tokens. -/
def ofTokens (tokens : List Token) : Walk :=
  ⟨tokens, []⟩

/-- Whether the next token is of the kind. -/
def nextIs (kind : TokenKind) (walk : Walk) : Bool :=
  walk.ahead.head?.any (·.kind == kind)

/-- The walk behind the next token. -/
def pass (walk : Walk) : Walk :=
  { walk with ahead := walk.ahead.tail }

/-- The walk behind all semicolons that are next. -/
def passSemicolons (walk : Walk) : Walk :=
  { walk with ahead := walk.ahead.dropWhile (·.kind == .semicolon) }

/-- The walk with one more event. -/
def note (event : ParseEvent) (walk : Walk) : Walk :=
  { walk with events := walk.events ++ [event] }

/-- Notes a statement at the position that begins with the next token. -/
def meetStatement (position : Position) (walk : Walk) : Walk :=
  match walk.ahead with
  | token :: _ => walk.note (.statement position token.lexeme)
  | [] => walk

/-- Notes a primary expression that begins with the next token. -/
def meetPrimary (position : Position) (walk : Walk) : Walk :=
  match walk.ahead with
  | token :: _ => walk.note (.primary position token.kind)
  | [] => walk

end Walk

/-- The walk over an expression and the tokens that spell it. -/
def Expression.walk : Expression → Walk → Walk
  | .literal position _, start => (start.meetPrimary position).pass
  | .reference position _, start => (start.meetPrimary position).pass
  | .unary _ _ operand, start => operand.walk start.pass
  | .binary _ left right, start => right.walk (left.walk start).pass
  | .group position inner, start =>
      (inner.walk (start.meetPrimary position).pass).pass

namespace Statement

mutual

/-- The walk over what is in a statement, with the tokens of the statement. -/
def walkInside : Statement → Walk → Walk
  | .bind _ _ value, start => value.walk start.pass.pass.pass
  | .assign _ _ value, start => value.walk start.pass.pass
  | .print _ arguments, start =>
      -- The keyword is in front of the first argument, a comma before others.
      arguments.foldl (fun walk argument => argument.walk walk.pass) start
  | .branch _ condition thenBody elseBody, start =>
      walkElse elseBody
        (walkSequence thenBody (condition.walk start.pass).pass).pass
  | .loop _ condition body, start =>
      (walkSequence body (condition.walk start.pass).pass).pass
  | .evaluate expression, start => expression.walk start

/-- The walk over statements behind each other, with semicolons around them. -/
def walkSequence : List Statement → Walk → Walk
  | [], start => start.passSemicolons
  | statement :: rest, start =>
      walkSequence rest
        (walkInside statement
          (start.passSemicolons.meetStatement statement.position))

/-- The walk over what follows the first block of a conditional statement. -/
def walkElse : Option (List Statement) → Walk → Walk
  | none, start => start
  | some body, start =>
      if start.pass.nextIs (.keyword .ifWord) then
        walkUnmet body start.pass
      else
        (walkSequence body start.pass.pass).pass

/-- The walk over what is in statements that are not met themselves. -/
def walkUnmet : List Statement → Walk → Walk
  | [], start => start
  | statement :: rest, start => walkUnmet rest (walkInside statement start)

end

end Statement

/-- The walk over a program along the tokens that it was read from. -/
def Program.walk (program : Program) (tokens : List Token) : Walk :=
  Statement.walkSequence program.statements (Walk.ofTokens tokens)

end OwlScript
