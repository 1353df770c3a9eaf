import OwlScript.Program.Basic
import OwlScript.Run.Sink

namespace OwlScript

/-!
# Outlines

An outline shows a program as a tree, one node a line, each node indented one
step further than the node it belongs to.  It is written to a sink line after
line, up to the first line that does not fit.  As data it is the list of these
lines, each a depth and a label.
-/

/-- One line of an outline. -/
structure OutlineLine where
  depth : Nat
  label : String
  deriving Repr, DecidableEq

namespace OutlineLine

/-- The line with two spaces for each step of depth, and a line feed. -/
def text (line : OutlineLine) : String :=
  ("".pushn ' ' (2 * line.depth)) ++ line.label ++ "\n"

/-- Writes the line to a sink. -/
def write (line : OutlineLine) (sink : Sink) : Bool × Sink :=
  sink.write line.text

end OutlineLine

namespace Expression

/-- The outline of an expression at a depth. -/
def outline (depth : Nat) : Expression → List OutlineLine
  | .literal _ value => [⟨depth, value.literalText⟩]
  | .reference _ name => [⟨depth, "Variable " ++ name⟩]
  | .unary _ operator operand =>
      ⟨depth, "Unary " ++ operator.name⟩ :: operand.outline (depth + 1)
  | .binary operator left right =>
      ⟨depth, "Binary " ++ operator.name⟩ ::
        (left.outline (depth + 1) ++ right.outline (depth + 1))
  | .group _ inner => ⟨depth, "Group"⟩ :: inner.outline (depth + 1)

/-- Writes an expression at a depth, and behind it what it is made of. -/
def write (depth : Nat) : Expression → Sink → Bool × Sink
  | .literal _ value, sink =>
      OutlineLine.write ⟨depth, value.literalText⟩ sink
  | .reference _ name, sink =>
      OutlineLine.write ⟨depth, "Variable " ++ name⟩ sink
  | .unary _ operator operand, sink =>
      OutlineLine.write ⟨depth, "Unary " ++ operator.name⟩ sink
        |> Sink.andThen (operand.write (depth + 1))
  | .binary operator left right, sink =>
      OutlineLine.write ⟨depth, "Binary " ++ operator.name⟩ sink
        |> Sink.andThen (left.write (depth + 1))
        |> Sink.andThen (right.write (depth + 1))
  | .group _ inner, sink =>
      OutlineLine.write ⟨depth, "Group"⟩ sink
        |> Sink.andThen (inner.write (depth + 1))

end Expression

namespace Statement

mutual

/-- The outline of a statement at a depth. -/
def outline (depth : Nat) : Statement → List OutlineLine
  | .bind _ name value =>
      ⟨depth, "Let " ++ name⟩ :: value.outline (depth + 1)
  | .assign _ name value =>
      ⟨depth, "Assign " ++ name⟩ :: value.outline (depth + 1)
  | .print _ arguments =>
      ⟨depth, "Print"⟩ :: arguments.flatMap (Expression.outline (depth + 1))
  | .branch _ condition thenBody elseBody =>
      ⟨depth, "If"⟩ ::
        (condition.outline (depth + 1) ++
          ⟨depth, "Then"⟩ :: (blockOutlineFrom (depth + 1) [] thenBody ++
            match elseBody with
            | none => []
            | some body =>
                ⟨depth, "Else"⟩ :: blockOutlineFrom (depth + 1) [] body))
  | .loop _ condition body =>
      ⟨depth, "While"⟩ ::
        (condition.outline (depth + 1) ++
          ⟨depth, "Do"⟩ :: blockOutlineFrom (depth + 1) [] body)
  | .evaluate expression =>
      ⟨depth, "ExprStmt"⟩ :: expression.outline (depth + 1)

/-- The lines found so far, latest first, and then the outline of a block. -/
def blockOutlineFrom (depth : Nat) (found : List OutlineLine) :
    List Statement → List OutlineLine
  | [] => found.reverse
  | statement :: rest =>
      blockOutlineFrom depth ((outline depth statement).reverse ++ found) rest

end

mutual

/-- Writes a statement at a depth, and behind it what it is made of. -/
def write (depth : Nat) : Statement → Sink → Bool × Sink
  | .bind _ name value, sink =>
      OutlineLine.write ⟨depth, "Let " ++ name⟩ sink
        |> Sink.andThen (value.write (depth + 1))
  | .assign _ name value, sink =>
      OutlineLine.write ⟨depth, "Assign " ++ name⟩ sink
        |> Sink.andThen (value.write (depth + 1))
  | .print _ arguments, sink =>
      OutlineLine.write ⟨depth, "Print"⟩ sink
        |> Sink.andThen
          (Sink.writeAll (Expression.write (depth + 1)) arguments)
  | .branch _ condition thenBody elseBody, sink =>
      let thenWritten :=
        OutlineLine.write ⟨depth, "If"⟩ sink
          |> Sink.andThen (condition.write (depth + 1))
          |> Sink.andThen (OutlineLine.write ⟨depth, "Then"⟩)
          |> Sink.andThen (writeBlock (depth + 1) thenBody)
      match elseBody with
      | none => thenWritten
      | some body =>
          thenWritten
            |> Sink.andThen (OutlineLine.write ⟨depth, "Else"⟩)
            |> Sink.andThen (writeBlock (depth + 1) body)
  | .loop _ condition body, sink =>
      OutlineLine.write ⟨depth, "While"⟩ sink
        |> Sink.andThen (condition.write (depth + 1))
        |> Sink.andThen (OutlineLine.write ⟨depth, "Do"⟩)
        |> Sink.andThen (writeBlock (depth + 1) body)
  | .evaluate expression, sink =>
      OutlineLine.write ⟨depth, "ExprStmt"⟩ sink
        |> Sink.andThen (expression.write (depth + 1))

/-- Writes the statements of a block at a depth, one after the other. -/
def writeBlock (depth : Nat) : List Statement → Sink → Bool × Sink
  | [], sink => (true, sink)
  | statement :: rest, sink =>
      match write depth statement sink with
      | (true, after) => writeBlock depth rest after
      | (false, after) => (false, after)

end

/-- The outline of a block is that of its statements in order. -/
theorem blockOutlineFrom_eq
    (depth : Nat)
    (found : List OutlineLine)
    (block : List Statement) :
    blockOutlineFrom depth found block =
      found.reverse ++ block.flatMap (outline depth) := by
  induction block generalizing found with
  | nil => simp [blockOutlineFrom]
  | cons statement rest hypothesis =>
      simp [blockOutlineFrom, hypothesis]

end Statement

namespace Program

/-- The lines of the outline of a program. -/
def outline (program : Program) : List OutlineLine :=
  ⟨0, "Program"⟩ :: Statement.blockOutlineFrom 1 [] program.statements

/-- The outline of a program as one text. -/
def outlineText (program : Program) : String :=
  String.join (program.outline.map OutlineLine.text)

/-- Writes the outline of a program, one line after the other. -/
def write (program : Program) (sink : Sink) : Bool × Sink :=
  OutlineLine.write ⟨0, "Program"⟩ sink
    |> Sink.andThen (Statement.writeBlock 1 program.statements)

end Program

end OwlScript
