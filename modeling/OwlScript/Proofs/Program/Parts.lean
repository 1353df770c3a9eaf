import OwlScript.Proofs.Program.Shape

namespace OwlScript

/-!
# The parts of programs

A program is put together from simple statements, which hold no statements
themselves, and from the conditions of the others.  The names that occur in a
program are those of the variables in its expressions and those of its targets.
-/

namespace Expression

/-- The names of the variables that the expression looks at. -/
def names : Expression → List String
  | .literal _ _ => []
  | .reference _ name => [name]
  | .unary _ _ operand => operand.names
  | .binary _ left right => left.names ++ right.names
  | .group _ inner => inner.names

/-- The literals in the expression. -/
def literals : Expression → List Value
  | .literal _ value => [value]
  | .reference _ _ => []
  | .unary _ _ operand => operand.literals
  | .binary _ left right => left.literals ++ right.literals
  | .group _ inner => inner.literals

/-- The nodes of the expression from left to right, operands first. -/
def nodes : Expression → List Expression
  | .literal position value => [.literal position value]
  | .reference position name => [.reference position name]
  | .unary position operator operand =>
      operand.nodes ++ [.unary position operator operand]
  | .binary operator left right =>
      left.nodes ++ (right.nodes ++ [.binary operator left right])
  | .group position inner => inner.nodes ++ [.group position inner]

/-- The last node is the whole expression. -/
theorem mem_nodes_self (expression : Expression) :
    expression ∈ expression.nodes := by
  cases expression <;> simp [nodes]

/-- An expression stands at one of its positions. -/
theorem position_mem_positions (expression : Expression) :
    expression.position ∈ expression.positions := by
  cases expression <;> exact List.mem_cons_self

end Expression

namespace Statement

/-- Whether the statement holds no statements. -/
def isSimple : Statement → Bool
  | .bind .. => true
  | .assign .. => true
  | .print .. => true
  | .branch .. => false
  | .loop .. => false
  | .evaluate _ => true

mutual

/-- The simple statements in a statement, in source order. -/
def simpleStatements : Statement → List Statement
  | .bind position name value => [.bind position name value]
  | .assign position name value => [.assign position name value]
  | .print position arguments => [.print position arguments]
  | .branch _ _ thenBody elseBody =>
      blockSimpleStatements thenBody ++ elseSimpleStatements elseBody
  | .loop _ _ body => blockSimpleStatements body
  | .evaluate expression => [.evaluate expression]

/-- The simple statements in the statements of a block. -/
def blockSimpleStatements : List Statement → List Statement
  | [] => []
  | statement :: rest =>
      simpleStatements statement ++ blockSimpleStatements rest

/-- The simple statements behind an `else`, if there is one. -/
def elseSimpleStatements : Option (List Statement) → List Statement
  | none => []
  | some body => blockSimpleStatements body

end

/-- The name that the statement may bind anew. -/
def introduced? : Statement → Option String
  | .bind _ name _ => some name
  | _ => none

/-- The name that the statement may give a value. -/
def target? : Statement → Option String
  | .bind _ name _ => some name
  | .assign _ name _ => some name
  | _ => none

/-- A simple statement has no other statements in it. -/
theorem simpleStatements_of_isSimple
    {statement : Statement}
    (simple : statement.isSimple = true) :
    statement.simpleStatements = [statement] := by
  cases statement with
  | branch position condition thenBody elseBody =>
      cases simple
  | loop position condition body =>
      cases simple
  | _ =>
      rfl

/-- The simple statements of two blocks in a row are those of each of them. -/
@[simp]
theorem blockSimpleStatements_append (front back : List Statement) :
    blockSimpleStatements (front ++ back) =
      blockSimpleStatements front ++ blockSimpleStatements back := by
  induction front with
  | nil =>
      rfl
  | cons statement rest hypothesis =>
      simp [blockSimpleStatements, hypothesis]

/-- The expressions of two blocks in a row are those of each of them. -/
@[simp]
theorem blockExpressions_append (front back : List Statement) :
    blockExpressions (front ++ back) =
      blockExpressions front ++ blockExpressions back := by
  induction front with
  | nil =>
      rfl
  | cons statement rest hypothesis =>
      simp [blockExpressions, hypothesis]

/-- All parts of some statements are parts of others. -/
structure PartsWithin (inner block : List Statement) : Prop where
  statements : blockSimpleStatements inner ⊆ blockSimpleStatements block
  expressions : blockExpressions inner ⊆ blockExpressions block

namespace PartsWithin

variable {position : Position}
variable {condition : Expression}
variable {thenBody body : List Statement}
variable {elseBody : Option (List Statement)}

/-- The parts of the rest of a block are parts of the block. -/
theorem behind (statement : Statement) (rest : List Statement) :
    PartsWithin rest (statement :: rest) where
  statements := List.subset_append_right _ _
  expressions := List.subset_append_right _ _

/-- What a branch does if its condition holds, and what is behind it. -/
theorem whenTrue (rest : List Statement) :
    PartsWithin (thenBody ++ rest)
      (.branch position condition thenBody elseBody :: rest) where
  statements := by
    simp only [blockSimpleStatements, blockSimpleStatements_append,
      simpleStatements]
    grind
  expressions := by
    simp only [blockExpressions, blockExpressions_append,
      Statement.expressions]
    grind

/-- What a branch does if its condition does not hold. -/
theorem whenFalse (rest : List Statement) :
    PartsWithin (elseBody.getD [] ++ rest)
      (.branch position condition thenBody elseBody :: rest) := by
  cases elseBody with
  | none =>
      exact behind _ rest
  | some body =>
      constructor
      · simp only [Option.getD, blockSimpleStatements,
          blockSimpleStatements_append, simpleStatements, elseSimpleStatements]
        grind
      · simp only [Option.getD, blockExpressions, blockExpressions_append,
          Statement.expressions, elseExpressions]
        grind

/-- One round of a loop, and the loop once more. -/
theorem again (rest : List Statement) :
    PartsWithin (body ++ .loop position condition body :: rest)
      (.loop position condition body :: rest) where
  statements := by
    simp only [blockSimpleStatements, blockSimpleStatements_append,
      simpleStatements]
    grind
  expressions := by
    simp only [blockExpressions, blockExpressions_append,
      Statement.expressions]
    grind

end PartsWithin

end Statement

namespace Program

/-- The simple statements in a program, in source order. -/
def simpleStatements (program : Program) : List Statement :=
  Statement.blockSimpleStatements program.statements

/-- The names that the program may bind anew. -/
def introduced (program : Program) : List String :=
  program.simpleStatements.filterMap Statement.introduced?

/-- The names that the program may give a value. -/
def targets (program : Program) : List String :=
  program.simpleStatements.filterMap Statement.target?

/-- The literals in the program. -/
def literals (program : Program) : List Value :=
  program.expressions.flatMap Expression.literals

/-- The names that occur in the program. -/
def mentioned (program : Program) : List String :=
  program.expressions.flatMap Expression.names ++ program.targets

end Program

end OwlScript
