import OwlScript.Number.Reading
import OwlScript.Parse.State
import OwlScript.Program.Basic

namespace OwlScript

/-!
# Reading expressions

The binary operators form six levels, from the tightest to the loosest, and
all of them group to the left.  A level is a chain: an operand of the next
tighter level, then operators of the level with an operand each.

What opens a new nesting level is read by a parser that is handed in.  So each
parser here is written for one level, and the tower of levels is built where
all of them are known.
-/

/-- An expression together with its height. -/
structure SizedExpression where
  expression : Expression
  height : Nat

/-- The operators of one level, by the tokens they are written as. -/
abbrev OperatorLevel :=
  List (TokenKind × BinaryOperator)

namespace OperatorLevel

/-- Multiplication and its relatives. -/
def factor : OperatorLevel :=
  [(.star, .arithmetic .multiply), (.slash, .arithmetic .divide),
    (.percent, .arithmetic .remainder)]

/-- Addition and subtraction. -/
def term : OperatorLevel :=
  [(.plus, .arithmetic .add), (.minus, .arithmetic .subtract)]

/-- The comparisons by order. -/
def comparison : OperatorLevel :=
  [(.lessEqual, .order .lessEqual), (.greaterEqual, .order .greaterEqual),
    (.less, .order .less), (.greater, .order .greater)]

/-- The comparisons for equality. -/
def equality : OperatorLevel :=
  [(.equalEqual, .equal), (.bangEqual, .notEqual)]

/-- Conjunction. -/
def conjunction : OperatorLevel :=
  [(.keyword .andWord, .and)]

/-- Disjunction. -/
def disjunction : OperatorLevel :=
  [(.keyword .orWord, .or)]

/-- All levels, the tightest first. -/
def all : List OperatorLevel :=
  [factor, term, comparison, equality, conjunction, disjunction]

end OperatorLevel

namespace Parse

/-- The expression with its height, unless that is beyond the limit. -/
def sized (expression : Expression) (height : Nat) : Parse SizedExpression :=
  if nestingLimit < height then
    throw (tooDeepAt expression.position)
  else
    return ⟨expression, height⟩

/-- Takes an operator of the level off, if the next token is one. -/
def acceptOperator (level : OperatorLevel) : Parse (Option BinaryOperator) := do
  match ← peek? with
  | some token =>
      match level.lookup token.kind with
      | some operator =>
          advance
          return some operator
      | none => return none
  | none => return none

/--
Reads the operators of a level behind the operand read so far, with an operand
each.  Every round takes at least one token, so the tokens left at the start
are enough rounds.
-/
def chainFrom
    (level : OperatorLevel)
    (operand : Parse SizedExpression) :
    List Token → SizedExpression → Parse SizedExpression
  | [], left => return left
  | _ :: rounds, left => do
      match ← acceptOperator level with
      | none => return left
      | some operator =>
          let right ← operand
          let joined ← sized
            (.binary operator left.expression right.expression)
            (max left.height right.height + 1)
          chainFrom level operand rounds joined

/-- Reads a chain of operands with operators of the level between them. -/
def chain
    (level : OperatorLevel)
    (operand : Parse SizedExpression) :
    Parse SizedExpression := do
  let first ← operand
  chainFrom level operand (← remaining) first

/-- Takes the next token off and gives an expression without operands. -/
def leaf (expression : Expression) : Parse SizedExpression := do
  advance
  sized expression 1

/--
Reads a literal, a variable or a group.  The inside of a group is read by the
given parser.
-/
def primary (inside : Parse SizedExpression) : Parse SizedExpression := do
  match ← peek? with
  | none => throw (SyntaxFault.expectedExpression.located (← get).ending)
  | some token =>
      record (.primary token.position token.kind)
      match token.kind with
      | .integer =>
          match Number.readInteger token.lexeme with
          | some number => leaf (.literal token.position (.int number))
          | none =>
              throw (SyntaxFault.integerOutOfRange.located token.position)
      | .float =>
          match Number.readFloat token.lexeme with
          | some number => leaf (.literal token.position (.float number))
          | none => throw (SyntaxFault.malformedFloat.located token.position)
      | .string => leaf (.literal token.position (.string token.lexeme))
      | .keyword .trueWord => leaf (.literal token.position (.bool true))
      | .keyword .falseWord => leaf (.literal token.position (.bool false))
      | .keyword .nilWord => leaf (.literal token.position .nil)
      | .identifier => leaf (.reference token.position token.lexeme)
      | .leftParenthesis =>
          advance
          let inner ← inside
          let _ ← expect .rightParenthesis .expectedGroupEnd
          sized (.group token.position inner.expression) (inner.height + 1)
      | .endOfInput =>
          throw (SyntaxFault.unexpectedEnd.located token.position)
      | _ =>
          throw
            ((SyntaxFault.unexpectedToken token.lexeme).located token.position)

/-- The operator in front of an operand that a token is written for. -/
def unaryOperator? : TokenKind → Option UnaryOperator
  | .minus => some .negate
  | .bang => some .not
  | .keyword .notWord => some .not
  | _ => none

/--
Reads an operator with its operand, or else a primary expression.  The operand
and the inside of a group are read by the given parsers.
-/
def unary
    (operand inside : Parse SizedExpression) :
    Parse SizedExpression := do
  match ← peek? with
  | none => primary inside
  | some token =>
      match unaryOperator? token.kind with
      | none => primary inside
      | some operator =>
          advance
          let inner ← operand
          sized (.unary token.position operator inner.expression)
            (inner.height + 1)

/-- Reads an expression of the loosest level over the given unary ones. -/
def overAllLevels (operand : Parse SizedExpression) : Parse SizedExpression :=
  OperatorLevel.all.foldl (fun tighter level => chain level tighter) operand

end Parse

end OwlScript
