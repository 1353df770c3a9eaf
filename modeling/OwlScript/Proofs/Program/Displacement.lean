import OwlScript.Proofs.Program.Parts
import OwlScript.Token.Basic
import OwlScript.Diagnostic

namespace OwlScript

/-!
# Displaced programs

A script that stands in another place has the same tokens and statements, only
their positions are others.  A displacement moves every position in what it is
applied to; nothing but the positions depends on it.
-/

namespace Position

/-- The position some lines further down. -/
def below (lines : Nat) (position : Position) : Position :=
  ⟨position.line + lines, position.column⟩

end Position

/-- The token at a displaced position. -/
def Token.moved (move : Position → Position) (token : Token) : Token :=
  { token with position := move token.position }

/-- The diagnostic at a displaced position, if it has any. -/
def Diagnostic.moved
    (move : Position → Position)
    (diagnostic : Diagnostic) :
    Diagnostic :=
  { diagnostic with position := diagnostic.position.map move }

/-- The failure with a displaced diagnostic, if it is one. -/
def Failure.moved (move : Position → Position) : Failure → Failure
  | .diagnostic report => .diagnostic (report.moved move)
  | failure => failure

/-- The expression with every position displaced. -/
def Expression.moved (move : Position → Position) : Expression → Expression
  | .literal position value => .literal (move position) value
  | .reference position name => .reference (move position) name
  | .unary position operator operand =>
      .unary (move position) operator (operand.moved move)
  | .binary operator left right =>
      .binary operator (left.moved move) (right.moved move)
  | .group position inner => .group (move position) (inner.moved move)

namespace Statement

mutual

/-- The statement with every position displaced. -/
def moved (move : Position → Position) : Statement → Statement
  | .bind position name value => .bind (move position) name (value.moved move)
  | .assign position name value =>
      .assign (move position) name (value.moved move)
  | .print position arguments =>
      .print (move position) (arguments.map (Expression.moved move))
  | .branch position condition thenBody elseBody =>
      .branch (move position) (condition.moved move) (blockMoved move thenBody)
        (elseMoved move elseBody)
  | .loop position condition body =>
      .loop (move position) (condition.moved move) (blockMoved move body)
  | .evaluate expression => .evaluate (expression.moved move)

/-- The statements of a block with every position displaced. -/
def blockMoved (move : Position → Position) : List Statement → List Statement
  | [] => []
  | statement :: rest => moved move statement :: blockMoved move rest

/-- What is behind an `else` with every position displaced. -/
def elseMoved (move : Position → Position) :
    Option (List Statement) → Option (List Statement)
  | none => none
  | some body => some (blockMoved move body)

end

end Statement

/-- The program with every position displaced. -/
def Program.moved (move : Position → Position) (program : Program) : Program :=
  ⟨Statement.blockMoved move program.statements⟩

/-- A diagnostic that is moved nowhere stays as it is. -/
@[simp]
theorem Diagnostic.moved_id (diagnostic : Diagnostic) :
    diagnostic.moved id = diagnostic := by
  simp [Diagnostic.moved]

/-- A failure that is moved nowhere stays as it is. -/
@[simp]
theorem Failure.moved_id (failure : Failure) : failure.moved id = failure := by
  cases failure <;> simp [Failure.moved]

namespace Expression

/-- An expression that is moved nowhere stays as it is. -/
@[simp]
theorem moved_id (expression : Expression) :
    expression.moved id = expression := by
  induction expression with
  | literal position value =>
      rfl
  | reference position name =>
      rfl
  | unary position operator operand hypothesis =>
      simp [moved, hypothesis]
  | binary operator left right leftHypothesis rightHypothesis =>
      simp [moved, leftHypothesis, rightHypothesis]
  | group position inner hypothesis =>
      simp [moved, hypothesis]

variable (move : Position → Position)

/-- A moved expression stands where its position was moved to. -/
@[simp]
theorem position_moved (expression : Expression) :
    (expression.moved move).position = move expression.position := by
  induction expression with
  | binary operator left right leftHypothesis rightHypothesis =>
      exact leftHypothesis
  | _ =>
      rfl

/-- The shape stays as it is. -/
@[simp]
theorem unplaced_moved (expression : Expression) :
    (expression.moved move).unplaced = expression.unplaced := by
  induction expression with
  | literal position value =>
      rfl
  | reference position name =>
      rfl
  | unary position operator operand hypothesis =>
      simp [moved, unplaced, hypothesis]
  | binary operator left right leftHypothesis rightHypothesis =>
      simp [moved, unplaced, leftHypothesis, rightHypothesis]
  | group position inner hypothesis =>
      simp [moved, unplaced, hypothesis]

end Expression

namespace Statement

mutual

/-- A statement that is moved nowhere stays as it is. -/
@[simp]
theorem moved_id :
    (statement : Statement) → statement.moved id = statement
  | .bind .. => by
      simp [moved]
  | .assign .. => by
      simp [moved]
  | .print .. => by
      simp [moved, List.map_id'' Expression.moved_id]
  | .branch _ _ thenBody elseBody => by
      simp [moved, blockMoved_id thenBody, elseMoved_id elseBody]
  | .loop _ _ body => by
      simp [moved, blockMoved_id body]
  | .evaluate _ => by
      simp [moved]

/-- So does a block. -/
@[simp]
theorem blockMoved_id :
    (block : List Statement) → blockMoved id block = block
  | [] => rfl
  | statement :: rest => by
      simp [blockMoved, moved_id statement, blockMoved_id rest]

/-- So does what stands behind an `else`. -/
@[simp]
theorem elseMoved_id :
    (elseBody : Option (List Statement)) → elseMoved id elseBody = elseBody
  | none => rfl
  | some body => by
      simp [elseMoved, blockMoved_id body]

end

variable (move : Position → Position)

mutual

/-- Moving a statement changes nothing but positions. -/
@[simp]
theorem unplaced_moved :
    (statement : Statement) →
      (statement.moved move).unplaced = statement.unplaced
  | .bind .. => by
      simp [moved, unplaced]
  | .assign .. => by
      simp [moved, unplaced]
  | .print .. => by
      simp [moved, unplaced]
  | .branch _ _ thenBody elseBody => by
      simp [moved, unplaced, blockUnplaced_blockMoved thenBody,
        elseUnplaced_elseMoved elseBody]
  | .loop _ _ body => by
      simp [moved, unplaced, blockUnplaced_blockMoved body]
  | .evaluate _ => by
      simp [moved, unplaced]

/-- So does moving a block. -/
@[simp]
theorem blockUnplaced_blockMoved :
    (block : List Statement) →
      blockUnplaced (blockMoved move block) = blockUnplaced block
  | [] => rfl
  | statement :: rest => by
      simp [blockMoved, blockUnplaced, unplaced_moved statement,
        blockUnplaced_blockMoved rest]

/-- So does moving what stands behind an `else`. -/
@[simp]
theorem elseUnplaced_elseMoved :
    (elseBody : Option (List Statement)) →
      elseUnplaced (elseMoved move elseBody) = elseUnplaced elseBody
  | none => rfl
  | some body => by
      simp [elseMoved, elseUnplaced, blockUnplaced_blockMoved body]

end

end Statement

namespace Program

/-- Displacing a program keeps its shape. -/
@[simp]
theorem unplaced_moved (move : Position → Position) (program : Program) :
    (program.moved move).unplaced = program.unplaced := by
  simp [moved, unplaced]

end Program

end OwlScript
