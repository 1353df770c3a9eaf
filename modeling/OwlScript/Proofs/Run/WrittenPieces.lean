import OwlScript.Batch
import OwlScript.Shell.Session

namespace OwlScript

/-!
# Texts written in pieces

What a sink takes of a text, and whether it takes all of it, does not depend on
the pieces in which the text is written.  So the listing of tokens, the outline
of a program, and what a batch run shows of its script, which are written line
after line, come to the same as one finished text each.
-/

/-- The tokens and the outline of a script, each under a heading. -/
def Batch.pipelineText (script : Script) : String :=
  "== tokens ==\n" ++ Token.listing script.tokens ++
    "== ast ==\n" ++ script.program.outlineText ++
    "== output ==\n"

namespace Sink

variable {sink : Sink}

/-- The first bytes of a longer row are those of its front. -/
theorem extract_append_of_le
    {limit : Nat}
    {bytes : ByteArray}
    (long : limit ≤ bytes.size)
    (more : ByteArray) :
    (bytes ++ more).extract 0 limit = bytes.extract 0 limit := by
  rw [ByteArray.extract_append, Nat.zero_sub, Nat.sub_eq_zero_of_le long,
    ByteArray.extract_same, ByteArray.append_empty]

/-- A limit that is not exceeded leaves all bytes. -/
theorem extract_eq_self_of_le
    {limit : Nat}
    {bytes : ByteArray}
    (short : bytes.size ≤ limit) :
    bytes.extract 0 limit = bytes := by
  have whole := @ByteArray.extract_zero_max_size bytes limit
  rwa [Nat.max_eq_left short] at whole

/-- A text without characters fits everywhere and leaves a sink as it is. -/
theorem write_empty (sink : Sink) :
    sink.write "" = (true, sink) := by
  obtain ⟨delivered, room⟩ := sink
  have nothing : "".toUTF8 = ByteArray.empty :=
    rfl
  cases room with
  | none =>
      simp only [write, nothing, ByteArray.append_empty]
  | some room =>
      simp only [write, nothing, ByteArray.size_empty, Nat.zero_le, if_true,
        ByteArray.append_empty, Nat.sub_zero]

/-- A text written in two parts comes to the same as the whole text. -/
theorem write_append (sink : Sink) (front back : String) :
    sink.write (front ++ back) =
      andThen (·.write back) (sink.write front) := by
  have bytes : (front ++ back).toUTF8 = front.toUTF8 ++ back.toUTF8 :=
    String.toByteArray_append
  obtain ⟨delivered, room⟩ := sink
  cases room with
  | none =>
      simp only [write, andThen, bytes, ByteArray.append_assoc]
  | some room =>
      simp only [write, bytes, ByteArray.size_append]
      by_cases frontFits : front.toUTF8.size ≤ room
      · have shifted :
            front.toUTF8.size + back.toUTF8.size ≤ room ↔
              back.toUTF8.size ≤ room - front.toUTF8.size := by
          omega
        simp only [if_pos frontFits, shifted, andThen]
        by_cases fits : back.toUTF8.size ≤ room - front.toUTF8.size
        · simp only [if_pos fits, ByteArray.append_assoc, Nat.sub_sub]
        · simp only [if_neg fits]
          rw [ByteArray.extract_append, Nat.zero_sub,
            extract_eq_self_of_le frontFits, ByteArray.append_assoc]
      · have notFits : ¬front.toUTF8.size + back.toUTF8.size ≤ room := by
          omega
        simp only [if_neg frontFits, if_neg notFits, andThen]
        rw [extract_append_of_le (by omega)]

/-- Writing on behind a text is writing a longer text. -/
theorem andThen_write
    {next : Sink → Bool × Sink}
    {back : String}
    (writes : ∀ after, next after = after.write back)
    (front : String) :
    andThen next (sink.write front) = sink.write (front ++ back) := by
  rw [write_append, funext writes]

/-- What is written for things one after the other is one text. -/
theorem writeAll_eq_write
    {α : Type}
    {writeOne : α → Sink → Bool × Sink}
    {text : α → String}
    {things : List α}
    (writes :
      ∀ thing ∈ things, ∀ before,
        writeOne thing before = before.write (text thing))
    (sink : Sink) :
    writeAll writeOne things sink =
      sink.write (String.join (things.map text)) := by
  induction things generalizing sink with
  | nil =>
      exact (write_empty sink).symm
  | cons thing rest hypothesis =>
      obtain ⟨first, later⟩ := List.forall_mem_cons.1 writes
      have unfolded :
          writeAll writeOne (thing :: rest) sink =
            andThen (writeAll writeOne rest) (writeOne thing sink) := by
        rw [writeAll]
        rcases writeOne thing sink with ⟨_ | _, after⟩ <;> rfl
      rw [unfolded, first, andThen_write (hypothesis later), List.map_cons,
        String.join_cons]

/-- In whatever pieces a text is written, it comes to the same. -/
theorem writeEach_eq_write (pieces : List String) (sink : Sink) :
    sink.writeEach pieces = sink.write (String.join pieces) := by
  have joined :=
    @writeAll_eq_write _ (fun text before => before.write text) id pieces
      (fun _ _ _ => rfl) sink
  rwa [List.map_id] at joined

end Sink

/-- The entries of tokens, written one by one, are their listing. -/
theorem Token.writeListing_eq_write (tokens : List Token) (sink : Sink) :
    writeListing tokens sink = sink.write (listing tokens) :=
  Sink.writeAll_eq_write (fun _ _ _ => rfl) sink

namespace OutlineLine

/-- The text of lines of an outline. -/
def joined (lines : List OutlineLine) : String :=
  String.join (lines.map text)

/-- A line is written as its text. -/
theorem write_eq_write (line : OutlineLine) (sink : Sink) :
    line.write sink = sink.write line.text :=
  rfl

/-- The text of the first line is in front. -/
theorem joined_cons (line : OutlineLine) (rest : List OutlineLine) :
    joined (line :: rest) = line.text ++ joined rest := by
  rw [joined, List.map_cons, String.join_cons, joined]

/-- The texts of two rows of lines follow each other. -/
theorem joined_append (front back : List OutlineLine) :
    joined (front ++ back) = joined front ++ joined back := by
  rw [joined, List.map_append, String.join_append, joined, joined]

/-- The text of rows of lines is that of the rows one after the other. -/
theorem joined_flatMap
    {α : Type}
    (lines : α → List OutlineLine)
    (things : List α) :
    joined (things.flatMap lines) =
      String.join (things.map fun thing => joined (lines thing)) := by
  induction things with
  | nil =>
      rfl
  | cons thing rest hypothesis =>
      rw [List.flatMap_cons, joined_append, hypothesis, List.map_cons,
        String.join_cons]

end OutlineLine

open OutlineLine

/-- An expression is written as the lines of its outline. -/
theorem Expression.write_eq_write
    (expression : Expression)
    (depth : Nat)
    (sink : Sink) :
    expression.write depth sink =
      sink.write (joined (expression.outline depth)) := by
  induction expression generalizing depth sink with
  | literal position value =>
      rw [outline, joined_cons]
      exact congrArg sink.write String.append_empty.symm
  | reference position name =>
      rw [outline, joined_cons]
      exact congrArg sink.write String.append_empty.symm
  | unary position operator operand hypothesis =>
      rw [write, OutlineLine.write_eq_write, Sink.andThen_write (hypothesis _),
        outline, joined_cons]
  | binary operator left right leftHypothesis rightHypothesis =>
      rw [write, OutlineLine.write_eq_write,
        Sink.andThen_write (leftHypothesis _),
        Sink.andThen_write (rightHypothesis _), outline, joined_cons,
        joined_append, String.append_assoc]
  | group position inner hypothesis =>
      rw [write, OutlineLine.write_eq_write, Sink.andThen_write (hypothesis _),
        outline, joined_cons]

namespace Statement

/-- The outline of a block, from the first line on. -/
theorem blockOutlineFrom_nil (depth : Nat) (block : List Statement) :
    blockOutlineFrom depth [] block = block.flatMap (outline depth) :=
  blockOutlineFrom_eq depth [] block

mutual

/-- A statement is written as the lines of its outline. -/
theorem write_eq_write (depth : Nat) :
    ∀ (statement : Statement) (sink : Sink),
      statement.write depth sink =
        sink.write (joined (statement.outline depth))
  | .bind position name value, sink => by
      rw [write, OutlineLine.write_eq_write,
        Sink.andThen_write (value.write_eq_write _), outline, joined_cons]
  | .assign position name value, sink => by
      rw [write, OutlineLine.write_eq_write,
        Sink.andThen_write (value.write_eq_write _), outline, joined_cons]
  | .print position arguments, sink => by
      have writes :=
        @Sink.writeAll_eq_write _ _ _ arguments
          fun argument _ => argument.write_eq_write (depth + 1)
      rw [write, OutlineLine.write_eq_write, Sink.andThen_write writes, outline,
        joined_cons, joined_flatMap]
  | .branch position condition thenBody none, sink => by
      rw [write, OutlineLine.write_eq_write,
        Sink.andThen_write (condition.write_eq_write _),
        Sink.andThen_write (OutlineLine.write_eq_write _),
        Sink.andThen_write (writeBlock_eq_write _ thenBody), outline]
      simp only [blockOutlineFrom_nil, joined_cons, joined_append,
        List.append_nil, String.append_assoc]
  | .branch position condition thenBody (some elseBody), sink => by
      rw [write, OutlineLine.write_eq_write,
        Sink.andThen_write (condition.write_eq_write _),
        Sink.andThen_write (OutlineLine.write_eq_write _),
        Sink.andThen_write (writeBlock_eq_write _ thenBody),
        Sink.andThen_write (OutlineLine.write_eq_write _),
        Sink.andThen_write (writeBlock_eq_write _ elseBody), outline]
      simp only [blockOutlineFrom_nil, joined_cons, joined_append,
        String.append_assoc]
  | .loop position condition body, sink => by
      rw [write, OutlineLine.write_eq_write,
        Sink.andThen_write (condition.write_eq_write _),
        Sink.andThen_write (OutlineLine.write_eq_write _),
        Sink.andThen_write (writeBlock_eq_write _ body), outline]
      simp only [blockOutlineFrom_nil, joined_cons, joined_append,
        String.append_assoc]
  | .evaluate expression, sink => by
      rw [write, OutlineLine.write_eq_write,
        Sink.andThen_write (expression.write_eq_write _), outline, joined_cons]

/-- A block is written as the lines of its outline. -/
theorem writeBlock_eq_write (depth : Nat) :
    ∀ (block : List Statement) (sink : Sink),
      writeBlock depth block sink =
        sink.write (joined (block.flatMap (outline depth)))
  | [], sink =>
      (Sink.write_empty sink).symm
  | statement :: rest, sink => by
      have unfolded :
          writeBlock depth (statement :: rest) sink =
            Sink.andThen (writeBlock depth rest)
              (statement.write depth sink) := by
        rw [writeBlock]
        rcases statement.write depth sink with ⟨_ | _, after⟩ <;> rfl
      rw [unfolded, write_eq_write depth statement,
        Sink.andThen_write (writeBlock_eq_write depth rest),
        List.flatMap_cons, joined_append]

end

end Statement

/-- A program is written as one text, which is its outline. -/
theorem Program.write_eq_write (program : Program) (sink : Sink) :
    program.write sink = sink.write program.outlineText := by
  rw [write, OutlineLine.write_eq_write,
    Sink.andThen_write (Statement.writeBlock_eq_write _ _), ← joined_cons,
    ← Statement.blockOutlineFrom_nil]
  rfl

/-- What a batch run shows of its script is one text, written in pieces. -/
theorem Batch.writePipeline_eq_write (script : Script) (sink : Sink) :
    writePipeline script sink = sink.write (pipelineText script) := by
  rw [writePipeline,
    Sink.andThen_write (Token.writeListing_eq_write script.tokens),
    Sink.andThen_write fun _ => rfl,
    Sink.andThen_write script.program.write_eq_write,
    Sink.andThen_write fun _ => rfl]
  rfl

namespace Shell

variable (rounds : Nat)
variable (files : Files)
variable (shell : Shell)

/-- A shell lists tokens as if it wrote one text. -/
theorem perform_listTokens :
    shell.perform rounds files .listTokens =
      shell.write (Token.listing shell.tokens) :=
  congrArg shell.deliver (funext (Token.writeListing_eq_write shell.tokens))

/-- A shell shows the outline of its program as if it wrote one text. -/
theorem perform_listTree :
    shell.perform rounds files .listTree =
      match shell.program? with
      | some program => shell.write program.outlineText
      | none => .completed shell := by
  rw [perform]
  cases shell.program? with
  | none =>
      rfl
  | some program =>
      exact congrArg shell.deliver (funext program.write_eq_write)

end Shell

end OwlScript
