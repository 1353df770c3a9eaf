import OwlScript.Parse.State
import OwlScript.Program.Basic

namespace OwlScript

/-!
# The shape of programs

The shape of a program is all of it apart from the positions.  Three things
depend on the shape alone: whether operands bind tightly enough to stand where
they stand without a group around them, how deep the parts of the program lie
in one another, and how high its expressions are.

Depth counts what is open around a part: a block, a conditional statement
behind an `else`, an expression of a statement, the inside of a group, and the
operand behind an operator in front.  Height counts the nodes of one
expression.
-/

namespace BinaryOperator

/-- How loosely the operator binds, where one is the tightest. -/
def level : BinaryOperator → Nat
  | .arithmetic .multiply => 1
  | .arithmetic .divide => 1
  | .arithmetic .remainder => 1
  | .arithmetic .add => 2
  | .arithmetic .subtract => 2
  | .order _ => 3
  | .equal => 4
  | .notEqual => 4
  | .and => 5
  | .or => 6

/-- No operator between two operands binds as tightly as one in front. -/
theorem level_pos (operator : BinaryOperator) : 0 < operator.level := by
  cases operator with
  | arithmetic inner =>
      cases inner <;> decide
  | order inner =>
      exact Nat.succ_pos 2
  | equal =>
      decide
  | notEqual =>
      decide
  | and =>
      decide
  | or =>
      decide

/-- There are six levels of operators. -/
theorem level_le (operator : BinaryOperator) : operator.level ≤ 6 := by
  cases operator with
  | arithmetic inner =>
      cases inner <;> decide
  | order inner =>
      exact Nat.le_add_right 3 3
  | equal =>
      decide
  | notEqual =>
      decide
  | and =>
      decide
  | or =>
      decide

end BinaryOperator

namespace Expression

/-- How loosely an expression binds; zero unless two operands meet in it. -/
def level : Expression → Nat
  | .literal _ _ => 0
  | .reference _ _ => 0
  | .unary _ _ _ => 0
  | .binary operator _ _ => operator.level
  | .group _ _ => 0

/-- No expression is looser than the loosest operator. -/
theorem level_le (expression : Expression) : expression.level ≤ 6 := by
  cases expression with
  | binary operator left right =>
      exact operator.level_le
  | _ =>
      exact Nat.zero_le 6

/--
Whether every operand stands where it may stand without a group around it.  A
left operand binds at least as tightly as its operator, a right one more
tightly, and the operand behind an operator in front is not a binary one.
-/
def RespectsPrecedence : Expression → Prop
  | .literal _ _ => True
  | .reference _ _ => True
  | .unary _ _ operand => operand.level = 0 ∧ operand.RespectsPrecedence
  | .binary operator left right =>
      left.level ≤ operator.level ∧ right.level < operator.level ∧
        left.RespectsPrecedence ∧ right.RespectsPrecedence
  | .group _ inner => inner.RespectsPrecedence

/-- The number of groups and operators in front around the innermost part. -/
def nesting : Expression → Nat
  | .literal _ _ => 0
  | .reference _ _ => 0
  | .unary _ _ operand => operand.nesting + 1
  | .binary _ left right => max left.nesting right.nesting
  | .group _ inner => inner.nesting + 1

/-- The expression with the first position in every node. -/
def unplaced : Expression → Expression
  | .literal _ value => .literal .start value
  | .reference _ name => .reference .start name
  | .unary _ operator operand => .unary .start operator operand.unplaced
  | .binary operator left right => .binary operator left.unplaced right.unplaced
  | .group _ inner => .group .start inner.unplaced

/-- How loosely an expression binds does not depend on positions. -/
@[simp]
theorem level_unplaced (expression : Expression) :
    expression.unplaced.level = expression.level := by
  cases expression <;> rfl

/-- Precedence does not depend on positions. -/
@[simp]
theorem respectsPrecedence_unplaced (expression : Expression) :
    expression.unplaced.RespectsPrecedence ↔
      expression.RespectsPrecedence := by
  induction expression with
  | literal position value =>
      rfl
  | reference position name =>
      rfl
  | unary position operator operand hypothesis =>
      simp [unplaced, RespectsPrecedence, hypothesis]
  | binary operator left right leftHypothesis rightHypothesis =>
      simp [unplaced, RespectsPrecedence, leftHypothesis, rightHypothesis]
  | group position inner hypothesis =>
      simp [unplaced, RespectsPrecedence, hypothesis]

/-- Nesting does not depend on positions. -/
@[simp]
theorem nesting_unplaced (expression : Expression) :
    expression.unplaced.nesting = expression.nesting := by
  induction expression with
  | literal position value =>
      rfl
  | reference position name =>
      rfl
  | unary position operator operand hypothesis =>
      simp [unplaced, nesting, hypothesis]
  | binary operator left right leftHypothesis rightHypothesis =>
      simp [unplaced, nesting, leftHypothesis, rightHypothesis]
  | group position inner hypothesis =>
      simp [unplaced, nesting, hypothesis]

/-- Height does not depend on positions. -/
@[simp]
theorem height_unplaced (expression : Expression) :
    expression.unplaced.height = expression.height := by
  induction expression with
  | literal position value =>
      rfl
  | reference position name =>
      rfl
  | unary position operator operand hypothesis =>
      simp [unplaced, height, hypothesis]
  | binary operator left right leftHypothesis rightHypothesis =>
      simp [unplaced, height, leftHypothesis, rightHypothesis]
  | group position inner hypothesis =>
      simp [unplaced, height, hypothesis]

end Expression

namespace Statement

mutual

/-- The expressions that a statement and those in it hold, in source order. -/
def expressions : Statement → List Expression
  | .bind _ _ value => [value]
  | .assign _ _ value => [value]
  | .print _ arguments => arguments
  | .branch _ condition thenBody elseBody =>
      condition :: (blockExpressions thenBody ++ elseExpressions elseBody)
  | .loop _ condition body => condition :: blockExpressions body
  | .evaluate expression => [expression]

/-- The expressions that the statements of a block hold. -/
def blockExpressions : List Statement → List Expression
  | [] => []
  | statement :: rest => expressions statement ++ blockExpressions rest

/-- The expressions behind an `else`, if there is one. -/
def elseExpressions : Option (List Statement) → List Expression
  | none => []
  | some body => blockExpressions body

end

mutual

/-- The greatest depth of a part of the statement, which itself has none. -/
def nesting : Statement → Nat
  | .bind _ _ value => value.nesting + 1
  | .assign _ _ value => value.nesting + 1
  | .print _ arguments =>
      arguments.foldr
        (fun argument deepest => max (argument.nesting + 1) deepest) 0
  | .branch _ condition thenBody elseBody =>
      max (condition.nesting + 1)
        (max (blockNesting thenBody + 1) (elseNesting elseBody))
  | .loop _ condition body =>
      max (condition.nesting + 1) (blockNesting body + 1)
  | .evaluate expression => expression.nesting + 1

/-- The greatest depth of a part of the statements of a block. -/
def blockNesting : List Statement → Nat
  | [] => 0
  | statement :: rest => max (nesting statement) (blockNesting rest)

/-- The greatest depth of what is behind an `else`, if there is one. -/
def elseNesting : Option (List Statement) → Nat
  | none => 0
  | some body => blockNesting body + 1

end

mutual

/-- The statement with the first position in every node. -/
def unplaced : Statement → Statement
  | .bind _ name value => .bind .start name value.unplaced
  | .assign _ name value => .assign .start name value.unplaced
  | .print _ arguments => .print .start (arguments.map Expression.unplaced)
  | .branch _ condition thenBody elseBody =>
      .branch .start condition.unplaced (blockUnplaced thenBody)
        (elseUnplaced elseBody)
  | .loop _ condition body =>
      .loop .start condition.unplaced (blockUnplaced body)
  | .evaluate expression => .evaluate expression.unplaced

/-- The statements of a block with the first position in every node. -/
def blockUnplaced : List Statement → List Statement
  | [] => []
  | statement :: rest => unplaced statement :: blockUnplaced rest

/-- What is behind an `else` with the first position in every node. -/
def elseUnplaced : Option (List Statement) → Option (List Statement)
  | none => none
  | some body => some (blockUnplaced body)

end

mutual

/-- Without its positions, a statement has its expressions without theirs. -/
@[simp]
theorem expressions_unplaced :
    (statement : Statement) →
      statement.unplaced.expressions =
        statement.expressions.map Expression.unplaced
  | .bind .. => rfl
  | .assign .. => rfl
  | .print .. => rfl
  | .branch _ _ thenBody elseBody => by
      simp [unplaced, expressions, blockExpressions_blockUnplaced thenBody,
        elseExpressions_elseUnplaced elseBody]
  | .loop _ _ body => by
      simp [unplaced, expressions, blockExpressions_blockUnplaced body]
  | .evaluate _ => rfl

/-- So has a block. -/
@[simp]
theorem blockExpressions_blockUnplaced :
    (block : List Statement) →
      blockExpressions (blockUnplaced block) =
        (blockExpressions block).map Expression.unplaced
  | [] => rfl
  | statement :: rest => by
      simp [blockUnplaced, blockExpressions, expressions_unplaced statement,
        blockExpressions_blockUnplaced rest]

/-- So has what stands behind an `else`. -/
@[simp]
theorem elseExpressions_elseUnplaced :
    (elseBody : Option (List Statement)) →
      elseExpressions (elseUnplaced elseBody) =
        (elseExpressions elseBody).map Expression.unplaced
  | none => rfl
  | some body => by
      simp [elseUnplaced, elseExpressions, blockExpressions_blockUnplaced body]

end

mutual

/-- A statement nests as deep without its positions. -/
@[simp]
theorem nesting_unplaced :
    (statement : Statement) →
      statement.unplaced.nesting = statement.nesting
  | .bind .. => by
      simp [unplaced, nesting]
  | .assign .. => by
      simp [unplaced, nesting]
  | .print .. => by
      simp [unplaced, nesting, List.foldr_map]
  | .branch _ _ thenBody elseBody => by
      simp [unplaced, nesting, blockNesting_blockUnplaced thenBody,
        elseNesting_elseUnplaced elseBody]
  | .loop _ _ body => by
      simp [unplaced, nesting, blockNesting_blockUnplaced body]
  | .evaluate _ => by
      simp [unplaced, nesting]

/-- So does a block. -/
@[simp]
theorem blockNesting_blockUnplaced :
    (block : List Statement) →
      blockNesting (blockUnplaced block) = blockNesting block
  | [] => rfl
  | statement :: rest => by
      simp [blockUnplaced, blockNesting, nesting_unplaced statement,
        blockNesting_blockUnplaced rest]

/-- So does what stands behind an `else`. -/
@[simp]
theorem elseNesting_elseUnplaced :
    (elseBody : Option (List Statement)) →
      elseNesting (elseUnplaced elseBody) = elseNesting elseBody
  | none => rfl
  | some body => by
      simp [elseUnplaced, elseNesting, blockNesting_blockUnplaced body]

end

end Statement

namespace Program

/-- The expressions that the statements of a program hold. -/
def expressions (program : Program) : List Expression :=
  Statement.blockExpressions program.statements

/-- The greatest depth of a part of a program. -/
def nesting (program : Program) : Nat :=
  Statement.blockNesting program.statements

/-- The program with the first position in every node. -/
def unplaced (program : Program) : Program :=
  ⟨Statement.blockUnplaced program.statements⟩

/-- Whether every expression of the program respects precedence. -/
def RespectsPrecedence (program : Program) : Prop :=
  ∀ expression ∈ program.expressions, expression.RespectsPrecedence

/--
Whether no part of the program lies deeper than the limit, and no expression
is higher than the limit.
-/
def WithinLimits (program : Program) : Prop :=
  program.nesting ≤ nestingLimit ∧
    ∀ expression ∈ program.expressions, expression.height ≤ nestingLimit

/-- Precedence in a program does not depend on positions. -/
@[simp]
theorem respectsPrecedence_unplaced (program : Program) :
    program.unplaced.RespectsPrecedence ↔ program.RespectsPrecedence := by
  simp [RespectsPrecedence, expressions, unplaced]

/-- The limits on a program do not depend on positions. -/
@[simp]
theorem withinLimits_unplaced (program : Program) :
    program.unplaced.WithinLimits ↔ program.WithinLimits := by
  simp [WithinLimits, nesting, expressions, unplaced]

end Program

end OwlScript
