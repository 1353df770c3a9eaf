import OwlScript.Position
import OwlScript.Value.Basic

namespace OwlScript

/-!
# Programs

A program is a list of statements, and statements hold expressions.  Every
node knows the position it begins at; a binary expression begins where its
left operand begins, and an expression statement where its expression does.
-/

/-- The operators that compute a number, or join two strings. -/
inductive ArithmeticOperator where
  | add
  | subtract
  | multiply
  | divide
  | remainder
  deriving Repr, DecidableEq

/-- The operators that compare two values by order. -/
inductive OrderOperator where
  | less
  | lessEqual
  | greater
  | greaterEqual
  deriving Repr, DecidableEq

/-- The operators with two operands. -/
inductive BinaryOperator where
  | arithmetic (operator : ArithmeticOperator)
  | order (operator : OrderOperator)
  | equal
  | notEqual
  | and
  | or
  deriving Repr, DecidableEq

/-- The operators with one operand. -/
inductive UnaryOperator where
  | negate
  | not
  deriving Repr, DecidableEq

namespace ArithmeticOperator

/-- The name in outlines and messages. -/
def name : ArithmeticOperator → String
  | .add => "Add"
  | .subtract => "Sub"
  | .multiply => "Mul"
  | .divide => "Div"
  | .remainder => "Mod"

end ArithmeticOperator

namespace OrderOperator

/-- The name in outlines and messages. -/
def name : OrderOperator → String
  | .less => "Less"
  | .lessEqual => "LessEqual"
  | .greater => "Greater"
  | .greaterEqual => "GreaterEqual"

end OrderOperator

namespace BinaryOperator

/-- The name in outlines and messages. -/
def name : BinaryOperator → String
  | .arithmetic operator => operator.name
  | .order operator => operator.name
  | .equal => "Equal"
  | .notEqual => "NotEqual"
  | .and => "And"
  | .or => "Or"

end BinaryOperator

namespace UnaryOperator

/-- The name in outlines. -/
def name : UnaryOperator → String
  | .negate => "Negate"
  | .not => "Not"

end UnaryOperator

/-- An expression. -/
inductive Expression where
  | literal (position : Position) (value : Value)
  | reference (position : Position) (name : String)
  | unary
      (position : Position)
      (operator : UnaryOperator)
      (operand : Expression)
  | binary (operator : BinaryOperator) (left right : Expression)
  | group (position : Position) (inner : Expression)
  deriving DecidableEq

namespace Expression

/-- Where the expression begins. -/
def position : Expression → Position
  | .literal position _ => position
  | .reference position _ => position
  | .unary position _ _ => position
  | .binary _ left _ => left.position
  | .group position _ => position

/-- The number of nodes on the longest way down. -/
def height : Expression → Nat
  | .literal _ _ => 1
  | .reference _ _ => 1
  | .unary _ _ operand => operand.height + 1
  | .binary _ left right => max left.height right.height + 1
  | .group _ inner => inner.height + 1

/-- The positions of all nodes, each before those of its operands. -/
def positions : Expression → List Position
  | .literal position _ => [position]
  | .reference position _ => [position]
  | .unary position _ operand => position :: operand.positions
  | .binary operator left right =>
      (Expression.binary operator left right).position ::
        (left.positions ++ right.positions)
  | .group position inner => position :: inner.positions

end Expression

/-- A statement. -/
inductive Statement where
  /-- Gives a new or an old variable a value. -/
  | bind (position : Position) (name : String) (value : Expression)
  /-- Gives an old variable a value. -/
  | assign (position : Position) (name : String) (value : Expression)
  | print (position : Position) (arguments : List Expression)
  | branch
      (position : Position)
      (condition : Expression)
      (thenBody : List Statement)
      (elseBody : Option (List Statement))
  | loop
      (position : Position)
      (condition : Expression)
      (body : List Statement)
  /-- Evaluates an expression and drops its value. -/
  | evaluate (expression : Expression)

namespace Statement

/-- Where the statement begins. -/
def position : Statement → Position
  | .bind position _ _ => position
  | .assign position _ _ => position
  | .print position _ => position
  | .branch position _ _ _ => position
  | .loop position _ _ => position
  | .evaluate expression => expression.position

/-- The word for the kind of statement in traces. -/
def form : Statement → String
  | .bind .. => "let"
  | .assign .. => "assign"
  | .print .. => "print"
  | .branch .. => "if"
  | .loop .. => "while"
  | .evaluate _ => "expr"

mutual

/-- The positions of the statement and all nodes in it, outer before inner. -/
def positions : Statement → List Position
  | .bind position _ value => position :: value.positions
  | .assign position _ value => position :: value.positions
  | .print position arguments =>
      position :: arguments.flatMap Expression.positions
  | .branch position condition thenBody elseBody =>
      position ::
        (condition.positions ++ blockPositionsFrom [] thenBody ++
          match elseBody with
          | none => []
          | some body => blockPositionsFrom [] body)
  | .loop position condition body =>
      position :: (condition.positions ++ blockPositionsFrom [] body)
  | .evaluate expression => expression.position :: expression.positions

/-- The positions found so far, latest first, and then those of a block. -/
def blockPositionsFrom (found : List Position) :
    List Statement → List Position
  | [] => found.reverse
  | statement :: rest =>
      blockPositionsFrom ((positions statement).reverse ++ found) rest

end

/-- The positions of a block are those of its statements in order. -/
theorem blockPositionsFrom_eq
    (found : List Position)
    (block : List Statement) :
    blockPositionsFrom found block =
      found.reverse ++ block.flatMap positions := by
  induction block generalizing found with
  | nil => simp [blockPositionsFrom]
  | cons statement rest hypothesis =>
      simp [blockPositionsFrom, hypothesis]

end Statement

/-- A whole script after parsing. -/
structure Program where
  statements : List Statement

namespace Program

/-- The program that does nothing. -/
def empty : Program :=
  ⟨[]⟩

/-- The positions of all nodes, outer before inner and in source order. -/
def positions (program : Program) : List Position :=
  Statement.blockPositionsFrom [] program.statements

end Program

end OwlScript
