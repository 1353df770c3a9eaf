import Mathlib.Data.List.Forall2
import OwlScript.Program.Outline
import OwlScript.Proofs.Parse.DisplacedTokens
import OwlScript.Proofs.Run.Simulation

namespace OwlScript

/-!
# Layout

The layout of a script shows in the positions of its tokens and nowhere else.
Tokens that differ in their positions only make programs that differ in their
positions only, or faults that do.  Such programs have the same outline, and
runs of them differ in the place of a diagnostic at most.

Two lists of tokens with the same text need not be displaced into each other,
because equal positions of the one may be different positions of the other.
But both are displaced into the tokens that all stand at the first position.
-/

/-- Tokens that differ in their positions only. -/
def Token.SameText (token other : Token) : Prop :=
  token.kind = other.kind ∧ token.lexeme = other.lexeme

instance (token other : Token) : Decidable (token.SameText other) :=
  inferInstanceAs (Decidable (_ ∧ _))

/-- Diagnostics that differ in their place only. -/
structure Diagnostic.SameText (diagnostic other : Diagnostic) : Prop where
  stage : diagnostic.stage = other.stage
  message : diagnostic.message = other.message
  notes : diagnostic.notes = other.notes

/-- Equal failures, or diagnostics that differ in their place only. -/
inductive Failure.SameText : Failure → Failure → Prop where
  | diagnostic
      {report other : Diagnostic}
      (same : report.SameText other) :
      SameText (.diagnostic report) (.diagnostic other)
  | equal
      (failure : Failure) :
      SameText failure failure

/-- Executions that differ in their traces only. -/
structure Execution.SameApartFromTrace (state other : Execution) : Prop where
  interpreter : state.interpreter = other.interpreter
  output : state.output = other.output

/--
Executions that both go on for ever or come to ends of the same kind, with the
same interpreter and the same output.
-/
inductive Outcome.SameApartFromPlace :
    Outcome Execution → Outcome Execution → Prop where
  | completed
      {state other : Execution}
      (same : state.SameApartFromTrace other) :
      SameApartFromPlace (.completed state) (.completed other)
  | failed
      {failure otherFailure : Failure}
      {state other : Execution}
      (sameText : failure.SameText otherFailure)
      (same : state.SameApartFromTrace other) :
      SameApartFromPlace (.failed failure state) (.failed otherFailure other)
  | unfinished : SameApartFromPlace .unfinished .unfinished

/-- Every position displaced to the first one. -/
def Position.toStart (_position : Position) : Position :=
  .start

/-! ### Programs without their layout -/

section Outlines

variable (move : Position → Position)

namespace Expression

/-- Moved to the start of the text, an expression has lost its positions. -/
theorem moved_toStart (expression : Expression) :
    expression.moved Position.toStart = expression.unplaced := by
  induction expression with
  | literal position value =>
      rfl
  | reference position name =>
      rfl
  | unary position operator operand hypothesis =>
      rw [moved, hypothesis]
      rfl
  | binary operator left right leftHypothesis rightHypothesis =>
      rw [moved, leftHypothesis, rightHypothesis]
      rfl
  | group position inner hypothesis =>
      rw [moved, hypothesis]
      rfl

/-- The outline of an expression does not tell where it stands. -/
@[simp]
theorem outline_moved (depth : Nat) (expression : Expression) :
    (expression.moved move).outline depth = expression.outline depth := by
  induction expression generalizing depth with
  | literal position value =>
      rfl
  | reference position name =>
      rfl
  | unary position operator operand hypothesis =>
      simp [moved, outline, hypothesis]
  | binary operator left right leftHypothesis rightHypothesis =>
      simp [moved, outline, leftHypothesis, rightHypothesis]
  | group position inner hypothesis =>
      simp [moved, outline, hypothesis]

end Expression

namespace Statement

mutual

/-- Moved to the start of the text, a statement has lost its positions. -/
theorem moved_toStart :
    (statement : Statement) →
      statement.moved Position.toStart = statement.unplaced
  | .bind _ _ value => by
      rw [moved, value.moved_toStart]
      rfl
  | .assign _ _ value => by
      rw [moved, value.moved_toStart]
      rfl
  | .print _ arguments => by
      rw [moved, List.map_congr_left fun argument _ => argument.moved_toStart]
      rfl
  | .branch _ condition thenBody elseBody => by
      rw [moved, condition.moved_toStart, blockMoved_toStart thenBody,
        elseMoved_toStart elseBody]
      rfl
  | .loop _ condition body => by
      rw [moved, condition.moved_toStart, blockMoved_toStart body]
      rfl
  | .evaluate expression => by
      rw [moved, expression.moved_toStart]
      rfl

/-- So has a block. -/
theorem blockMoved_toStart :
    (block : List Statement) →
      blockMoved Position.toStart block = blockUnplaced block
  | [] => rfl
  | statement :: rest => by
      rw [blockMoved, moved_toStart statement, blockMoved_toStart rest]
      rfl

/-- So has what stands behind an `else`. -/
theorem elseMoved_toStart :
    (elseBody : Option (List Statement)) →
      elseMoved Position.toStart elseBody = elseUnplaced elseBody
  | none => rfl
  | some body => by
      rw [elseMoved, blockMoved_toStart body]
      rfl

end

mutual

/-- The outline of a statement does not tell where it stands. -/
theorem outline_moved (depth : Nat) :
    (statement : Statement) →
      (statement.moved move).outline depth = statement.outline depth
  | .bind .. => by
      simp [moved, outline]
  | .assign .. => by
      simp [moved, outline]
  | .print .. => by
      simp [moved, outline, List.flatMap_map]
  | .branch _ _ thenBody none => by
      simp [moved, outline, elseMoved, blockOutlineFrom_moved _ [] thenBody]
  | .branch _ _ thenBody (some body) => by
      simp [moved, outline, elseMoved, blockOutlineFrom_moved _ [] thenBody,
        blockOutlineFrom_moved _ [] body]
  | .loop _ _ body => by
      simp [moved, outline, blockOutlineFrom_moved _ [] body]
  | .evaluate _ => by
      simp [moved, outline]

/-- Neither does the outline of a block, behind the lines found. -/
theorem blockOutlineFrom_moved (depth : Nat) (found : List OutlineLine) :
    (block : List Statement) →
      blockOutlineFrom depth found (blockMoved move block) =
        blockOutlineFrom depth found block
  | [] => rfl
  | statement :: rest => by
      rw [blockMoved, blockOutlineFrom, outline_moved depth statement,
        blockOutlineFrom_moved depth _ rest]
      rfl

end

end Statement

namespace Program

/-- Moved to the start of the text, a program has lost its positions. -/
theorem moved_toStart (program : Program) :
    program.moved Position.toStart = program.unplaced := by
  rw [moved, Statement.blockMoved_toStart]
  rfl

/-- An outline does not show where anything stands. -/
theorem outlineText_moved (program : Program) :
    (program.moved move).outlineText = program.outlineText := by
  simp only [outlineText, outline, moved, Statement.blockOutlineFrom_moved]

end Program

end Outlines

/-! ### Runs without their layout -/

namespace Execution.SameApartFromTrace

variable {state other third : Execution}

/-- An execution is the same as itself. -/
theorem refl (state : Execution) : state.SameApartFromTrace state :=
  ⟨rfl, rfl⟩

/-- Being the same apart from the trace does not depend on the order. -/
theorem symm (same : state.SameApartFromTrace other) :
    other.SameApartFromTrace state :=
  ⟨same.interpreter.symm, same.output.symm⟩

/--
What is the same as a third apart from the trace is the same as the first.
-/
theorem trans
    (first : state.SameApartFromTrace other)
    (second : other.SameApartFromTrace third) :
    state.SameApartFromTrace third :=
  ⟨first.interpreter.trans second.interpreter,
    first.output.trans second.output⟩

/-- Apart from the trace, the variables are the same. -/
theorem globals (same : state.SameApartFromTrace other) :
    state.globals = other.globals :=
  congrArg Interpreter.globals same.interpreter

/-- Storing a value keeps executions the same apart from the trace. -/
theorem insert
    (same : state.SameApartFromTrace other)
    (name : String)
    (stored : Stored) :
    (state.insert name stored).SameApartFromTrace
      (other.insert name stored) where
  interpreter := by
    unfold Execution.insert
    rw [same.globals, same.interpreter]
  output := same.output

/-- No step looks at the trace. -/
theorem simulation
    (statements : List Statement)
    (expressions : List Expression) :
    Simulation statements expressions Execution.SameApartFromTrace where
  record same _ _ := ⟨same.interpreter, same.output⟩
  evaluate same expression _ := by
    rw [same.globals]
  contains same _ _ _ _ := by
    rw [same.globals]
  bind same _ _ _ _ stored := same.insert _ stored
  assign same _ _ _ _ _ _ stored := same.insert _ stored
  write same text :=
    Execution.write_related same.output
      (fun _ => ⟨same.interpreter, rfl⟩) text

end Execution.SameApartFromTrace

/-- Diagnostics that some displacement makes equal have the same text. -/
theorem Diagnostic.sameText_of_moved_eq
    {move : Position → Position}
    {diagnostic other : Diagnostic}
    (same : diagnostic.moved move = other.moved move) :
    diagnostic.SameText other where
  stage := (congrArg Diagnostic.stage same :)
  message := (congrArg Diagnostic.message same :)
  notes := (congrArg Diagnostic.notes same :)

/-- Failures that some displacement makes equal have the same text. -/
theorem Failure.sameText_of_moved_eq
    {move : Position → Position}
    {failure other : Failure}
    (same : failure.moved move = other.moved move) :
    failure.SameText other := by
  cases failure with
  | diagnostic report =>
      cases other with
      | diagnostic otherReport =>
          have reports : report.moved move = otherReport.moved move := by
            simpa [Failure.moved] using same
          exact .diagnostic (Diagnostic.sameText_of_moved_eq reports)
      | _ =>
          cases same
  | _ =>
      cases other with
      | diagnostic otherReport =>
          cases same
      | _ =>
          cases same <;> exact .equal _

/-- Two outcomes that a third one differs from in places only do so as well. -/
theorem Outcome.sameApartFromPlace_of_related
    {move : Position → Position}
    {moved outcome otherOutcome : Outcome Execution}
    (related :
      moved.Related Execution.SameApartFromTrace
        (outcome.mapFailure (Failure.moved move)))
    (otherRelated :
      moved.Related Execution.SameApartFromTrace
        (otherOutcome.mapFailure (Failure.moved move))) :
    outcome.SameApartFromPlace otherOutcome := by
  cases outcome with
  | completed state =>
      cases related with
      | completed same =>
          cases otherOutcome with
          | completed other =>
              cases otherRelated with
              | completed otherSame =>
                  exact .completed (same.symm.trans otherSame)
          | _ =>
              cases otherRelated
  | failed failure state =>
      generalize movedFailure : failure.moved move = inPlace at related
      simp only [mapFailure, movedFailure] at related
      cases related with
      | failed _ same =>
          cases otherOutcome with
          | failed otherFailure other =>
              generalize otherMoved : otherFailure.moved move = otherInPlace
                at otherRelated
              simp only [mapFailure, otherMoved] at otherRelated
              cases otherRelated with
              | failed _ otherSame =>
                  exact .failed
                    (Failure.sameText_of_moved_eq
                      (movedFailure.trans otherMoved.symm))
                    (same.symm.trans otherSame)
          | _ =>
              cases otherRelated
  | unfinished =>
      cases related with
      | unfinished =>
          cases otherOutcome with
          | unfinished =>
              exact .unfinished
          | _ =>
              cases otherRelated

namespace Program

/-- The run of a displaced program is that of the program, but for places. -/
theorem run_moved
    (move : Position → Position)
    (rounds : Nat)
    (program : Program)
    {state other : Execution}
    (same : state.SameApartFromTrace other) :
    ((program.moved move).run rounds state).Related
      Execution.SameApartFromTrace
      ((program.run rounds other).mapFailure (Failure.moved move)) := by
  have simulation :=
    Execution.SameApartFromTrace.simulation program.simpleStatements
      program.expressions
  refine simulation.executeBlock_moved move rounds program.statements
    (List.Subset.refl _) (List.Subset.refl _) ?_
  exact
    { interpreter := by simp only [same.interpreter]; rfl
      output := same.output }

/-- Programs that are equal without their positions run alike. -/
theorem run_sameApartFromPlace
    {program other : Program}
    (sameShape : program.unplaced = other.unplaced)
    (rounds : Nat)
    {state otherState : Execution}
    (same : state.SameApartFromTrace otherState) :
    (program.run rounds state).SameApartFromPlace
      (other.run rounds otherState) := by
  have run := run_moved Position.toStart rounds program (.refl state)
  have otherRun := run_moved Position.toStart rounds other same
  rw [moved_toStart] at run otherRun
  rw [← sameShape] at otherRun
  exact Outcome.sameApartFromPlace_of_related run otherRun

/-- Programs that are equal up to positions have the same outline. -/
theorem outlineText_eq_of_unplaced_eq
    {program other : Program}
    (sameShape : program.unplaced = other.unplaced) :
    program.outlineText = other.outlineText := by
  rw [← outlineText_moved Position.toStart program, moved_toStart, sameShape,
    ← moved_toStart, outlineText_moved]

end Program

/-- Tokens with the same text are equal once they all stand at one place. -/
theorem Token.map_moved_toStart_eq
    {tokens other : List Token}
    (sameText : List.Forall₂ Token.SameText tokens other) :
    tokens.map (Token.moved Position.toStart) =
      other.map (Token.moved Position.toStart) := by
  induction sameText with
  | nil =>
      rfl
  | @cons token otherToken tokens other same rest hypothesis =>
      obtain ⟨kind, lexeme, position⟩ := token
      obtain ⟨otherKind, otherLexeme, otherPosition⟩ := otherToken
      obtain ⟨sameKind, sameLexeme⟩ := same
      dsimp only at sameKind sameLexeme
      rw [List.map_cons, List.map_cons, hypothesis, sameKind, sameLexeme]
      rfl

namespace Program

/--
The layout of tokens has no influence on anything but positions.  Tokens that
have the same kinds and lexemes one by one, wherever they stand, are either
both refused, with the same message and the same notes, or make programs that
are equal up to positions and have the same outline.  From the same interpreter
and output, and with the same rounds, the runs of these programs both go on or
both come to an end, with the same output, the same variables and counted runs,
and success or the same failure up to its place.
-/
theorem layout_decides_nothing
    {tokens other : List Token}
    (sameText : List.Forall₂ Token.SameText tokens other) :
    (∃ program otherProgram,
      ofTokens tokens = .ok program ∧ ofTokens other = .ok otherProgram ∧
        program.unplaced = otherProgram.unplaced ∧
          program.outlineText = otherProgram.outlineText ∧
            ∀ (rounds : Nat) (state otherState : Execution),
              state.SameApartFromTrace otherState →
                (program.run rounds state).SameApartFromPlace
                  (otherProgram.run rounds otherState)) ∨
    ∃ fault otherFault,
      ofTokens tokens = .error fault ∧ ofTokens other = .error otherFault ∧
        fault.SameText otherFault := by
  have parsed :=
    @ofTokens_moved Position.toStart rfl tokens
  rw [Token.map_moved_toStart_eq sameText, ofTokens_moved rfl] at parsed
  cases first : ofTokens tokens with
  | ok program =>
      cases second : ofTokens other with
      | ok otherProgram =>
          rw [first, second] at parsed
          have sameShape : program.unplaced = otherProgram.unplaced := by
            rw [← moved_toStart, ← moved_toStart]
            exact (Except.ok.inj parsed).symm
          exact .inl ⟨program, otherProgram, rfl, rfl, sameShape,
            outlineText_eq_of_unplaced_eq sameShape,
            fun rounds _ _ same =>
              run_sameApartFromPlace sameShape rounds same⟩
      | error otherFault =>
          rw [first, second] at parsed
          cases parsed
  | error fault =>
      cases second : ofTokens other with
      | ok otherProgram =>
          rw [first, second] at parsed
          cases parsed
      | error otherFault =>
          rw [first, second] at parsed
          exact .inr ⟨fault, otherFault, rfl, rfl,
            Diagnostic.sameText_of_moved_eq (Except.error.inj parsed).symm⟩

/-- The tokens of a division by zero, written on one line. -/
def divisionOnOneLine : List Token :=
  [⟨.keyword .printWord, "print", ⟨1, 1⟩⟩, ⟨.integer, "1", ⟨1, 7⟩⟩,
    ⟨.slash, "/", ⟨1, 8⟩⟩, ⟨.integer, "0", ⟨1, 9⟩⟩,
    ⟨.endOfInput, "", ⟨1, 10⟩⟩]

/-- The same tokens over three lines, with remarks between them. -/
def divisionOverLines : List Token :=
  [⟨.keyword .printWord, "print", ⟨1, 3⟩⟩, ⟨.integer, "1", ⟨2, 1⟩⟩,
    ⟨.slash, "/", ⟨2, 4⟩⟩, ⟨.integer, "0", ⟨3, 2⟩⟩,
    ⟨.endOfInput, "", ⟨3, 3⟩⟩]

/--
A division on one line and over several lines is parsed, outlined and run
alike.
-/
theorem division_layout_decides_nothing :
    List.Forall₂ Token.SameText divisionOnOneLine divisionOverLines ∧
      divisionOnOneLine ≠ divisionOverLines ∧
        ∃ program other,
          ofTokens divisionOnOneLine = .ok program ∧
            ofTokens divisionOverLines = .ok other ∧
              program.outlineText = other.outlineText ∧
                let state : Execution := ⟨.fresh, .unlimited, .start true⟩
                (program.run 0 state).SameApartFromPlace
                  (other.run 0 state) := by
  have sameText :
      List.Forall₂ Token.SameText divisionOnOneLine divisionOverLines := by
    decide
  have accepted : (ofTokens divisionOnOneLine).toOption.isSome = true := by
    decide +kernel
  refine ⟨sameText, by decide, ?_⟩
  rcases layout_decides_nothing sameText with
    ⟨program, other, parsed, otherParsed, _, sameOutline, runs⟩ |
      ⟨fault, _, refused, _⟩
  · exact ⟨program, other, parsed, otherParsed, sameOutline,
      runs 0 _ _ (.refl _)⟩
  · rw [refused] at accepted
    cases accepted

end Program

end OwlScript
