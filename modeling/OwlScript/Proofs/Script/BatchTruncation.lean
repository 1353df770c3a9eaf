import OwlScript.Batch
import OwlScript.Proofs.Run.Truncation

namespace OwlScript

/-!
# Truncated batch runs

A batch run writes the tokens and the outline of its script, if asked to, and
then what the script prints.  An output with a limit truncates all of this at
one place, and the batch run reports that the output is closed, even if the
script fails later on.  As long as everything fits, the limit cannot be told
from the results.
-/

/-- The state that a batch run leaves, without its trace. -/
def BatchResult.execution (result : BatchResult) : Execution :=
  ⟨result.interpreter, result.output, .start false⟩

namespace Batch

/-- The texts that show a script, as they are written one after the other. -/
def pipelinePieces (script : Script) : List String :=
  "== tokens ==\n" :: script.tokens.map (fun token => token.entry ++ "\n") ++
    "== ast ==\n" :: script.program.outline.map OutlineLine.text ++
    ["== output ==\n"]

/-- The execution that a script is run from, once it is shown if asked for. -/
def executionFrom (script : Script) (verbosity : Verbosity) : Execution where
  interpreter := .fresh
  output :=
    if verbosity.showPipeline then
      (Sink.unlimited.write (pipelineText script)).2
    else
      .unlimited
  trace := .start verbosity.traceInterpreter

/--
Where the output of a batch run without a limit crosses a limit, and the
interpreter at that point: in front of the run, or in a print statement of it.
-/
inductive Crosses
    (script : Script)
    (verbosity : Verbosity)
    (last : Execution)
    (limit : Nat) :
    Interpreter → Prop where
  | inPipeline
      (shows : verbosity.showPipeline = true)
      (crosses : limit < (pipelineText script).toUTF8.size) :
      Crosses script verbosity last limit .fresh
  | inRun
      {middle : Execution}
      (crosses :
        Statement.Crosses script.program.statements
          ((executionFrom script verbosity).counted
            script.program.statements.length).untraced
          last limit middle) :
      Crosses script verbosity last limit middle.interpreter

/-- What comes of running a loaded script with a limit and without it. -/
inductive Truncates
    (script : Script)
    (verbosity : Verbosity)
    (last : Execution)
    (limit : Nat) :
    Outcome Execution → Outcome Execution → Prop where
  | whole
      {outcome otherOutcome : Outcome Execution}
      (related :
        outcome.Related (fun state other => state.InStep limit other)
          otherOutcome) :
      Truncates script verbosity last limit outcome otherOutcome
  | cut
      {outcome : Outcome Execution}
      {cut : Execution}
      (crosses :
        Crosses script verbosity last.untraced limit cut.interpreter)
      (cutOff : last.output.CutOff limit cut.output) :
      Truncates script verbosity last limit outcome (.failed .closedOutput cut)

/-- The pieces that show a script may be written one by one. -/
theorem writeEach_pipelinePieces (script : Script) (sink : Sink) :
    sink.writeEach (pipelinePieces script) =
      sink.write (pipelineText script) := by
  have joined : String.join (pipelinePieces script) = pipelineText script := by
    unfold pipelinePieces pipelineText Token.listing Program.outlineText
    simp only [String.join_append, String.join_cons, String.join_nil,
      List.cons_append, String.append_empty, String.append_assoc]
  rw [Sink.writeEach_eq_write, joined]

section Runs

variable {rounds limit : Nat}
variable {script : Script}
variable {verbosity : Verbosity}
variable {last : Execution}

/--
A run on a limited output goes as without the limit, or is cut off where it
crosses that.
-/
theorem run_truncates
    {limited : Execution}
    (inStep : (executionFrom script verbosity).InStep limit limited)
    (finished :
      (script.program.run rounds
        (executionFrom script verbosity)).state? = some last) :
    Truncates script verbosity last limit
      (script.program.run rounds (executionFrom script verbosity))
      (script.program.run rounds limited) := by
  obtain ⟨otherLast, otherFinished⟩ :=
    Program.exists_state?_of_inStep inStep finished
  have truncates := Program.run_truncates inStep finished otherFinished
  generalize script.program.run rounds limited = otherOutcome at truncates ⊢
  cases truncates with
  | whole related =>
      exact .whole related
  | @cut middle cut crosses keeps cutOff =>
      refine .cut ?_ cutOff
      rw [keeps]
      exact .inRun crosses

/-- A limit only truncates what a loaded script shows and prints. -/
theorem runLoaded_truncates
    (finished :
      (runLoaded rounds script verbosity
        ⟨.fresh, .unlimited, .start verbosity.traceInterpreter⟩).state? =
          some last) :
    Truncates script verbosity last limit
      (runLoaded rounds script verbosity
        ⟨.fresh, .unlimited, .start verbosity.traceInterpreter⟩)
      (runLoaded rounds script verbosity
        ⟨.fresh, .withRoom (some limit),
          .start verbosity.traceInterpreter⟩) := by
  have start := @run_truncates rounds limit script verbosity last
  unfold executionFrom at start
  unfold runLoaded at finished ⊢
  cases shows : verbosity.showPipeline with
  | false =>
      simp only [shows, Bool.false_eq_true, if_false] at finished start ⊢
      exact start ⟨rfl, Sink.inStep_withRoom limit⟩ finished
  | true =>
      have written :=
        (Sink.inStep_withRoom limit).write (pipelineText script)
      have whole :
          Sink.unlimited.write (pipelineText script) =
            (true, ⟨(pipelineText script).toUTF8, none⟩) := by
        rw [Sink.write_of_unlimited rfl]
        exact congrArg (fun bytes => (true, Sink.mk bytes none))
          ByteArray.empty_append
      rw [whole] at written
      simp only [shows, if_true, Execution.deliver, writePipeline_eq_write,
        whole] at finished start ⊢
      generalize (Sink.withRoom (some limit)).write (pipelineText script) =
        answer at written ⊢
      cases written with
      | inStep inStep =>
          exact start ⟨rfl, inStep⟩ finished
      | cutOff cutOff =>
          exact .cut (.inPipeline shows cutOff.crossed)
            (cutOff.of_leadsTo (Program.leadsTo_of_run finished) .nothing)

end Runs

/-- What a limit leaves of the results of a batch run. -/
structure IsTruncated
    (files : Files)
    (path : String)
    (verbosity : Verbosity)
    (errors : Sink)
    (full : BatchResult)
    (limit : Nat)
    (cut : BatchResult) : Prop where
  /-- If everything fits, there is no difference. -/
  fits :
    full.output.delivered.size ≤ limit →
      cut.output.delivered = full.output.delivered ∧ cut.code = full.code ∧
        cut.errors = full.errors ∧ cut.interpreter = full.interpreter
  /-- If not, the first bytes are delivered, and the output is closed. -/
  crosses :
    limit < full.output.delivered.size →
      cut.output.delivered = full.output.delivered.extract 0 limit ∧
        cut.code = 1 ∧
        cut.errors = (errors.write "error: I/O error: closed\n").2 ∧
        ∃ script, (Script.load files path).outcome = .ok script ∧
          Crosses script verbosity full.execution limit cut.interpreter

variable {files : Files}
variable {path : String}
variable {verbosity : Verbosity}
variable {errors : Sink}
variable {full cut : BatchResult}
variable {limit : Nat}

/-- In step with the full run, the truncated one reports the same. -/
theorem IsTruncated.of_inStep
    (inStep : full.output.InStep limit cut.output)
    (code : cut.code = full.code)
    (sameErrors : cut.errors = full.errors)
    (interpreter : cut.interpreter = full.interpreter) :
    IsTruncated files path verbosity errors full limit cut where
  fits _ := ⟨inStep.delivered, code, sameErrors, interpreter⟩
  crosses tooLong := absurd inStep.fits (Nat.not_le_of_lt tooLong)

/--
Cut off at the limit, the truncated run reports that its output was closed.
-/
theorem IsTruncated.of_cutOff
    {script : Script}
    (loaded : (Script.load files path).outcome = .ok script)
    (crosses :
      Crosses script verbosity full.execution limit cut.interpreter)
    (cutOff : full.output.CutOff limit cut.output)
    (code : cut.code = 1)
    (reported :
      cut.errors = (errors.write "error: I/O error: closed\n").2) :
    IsTruncated files path verbosity errors full limit cut where
  fits short := absurd short (Nat.not_le_of_lt cutOff.crossed)
  crosses _ := ⟨cutOff.delivered, code, reported, script, loaded, crosses⟩

/--
An output with a limit only truncates a batch run.  If the run without the
limit comes to an end, so does the run with it, in as many rounds.  As long as
everything fits, both leave the same output, code, errors and interpreter.  If
not, the first bytes are delivered, the code is 1, the errors say that the
output is closed, and the interpreter is left as it was when the text was begun
that crosses the limit: as a new one while the script is shown, or as the run
without the limit had it when it began that print statement.  The script may be
shown in pieces, up to the first that does not fit.
-/
theorem carryOut_isTruncated
    {rounds : Nat}
    (limit : Nat)
    (finished :
      carryOut rounds files (.run path verbosity) .unlimited errors =
        some full) :
    (∃ cut,
      carryOut rounds files (.run path verbosity) (.withRoom (some limit))
          errors = some cut ∧
        IsTruncated files path verbosity errors full limit cut) ∧
      ∀ (script : Script) (sink : Sink),
        sink.writeEach (pipelinePieces script) =
          sink.write (pipelineText script) := by
  refine ⟨?_, writeEach_pipelinePieces⟩
  have start := Sink.inStep_withRoom limit
  simp only [carryOut, runPath] at finished ⊢
  -- A script that cannot be loaded writes nothing, so there is nothing to cut.
  cases loaded : (Script.load files path).outcome with
  | error failure =>
      simp only [loaded] at finished ⊢
      cases finished
      exact ⟨_, rfl, .of_inStep start rfl rfl rfl⟩
  | ok script =>
      simp only [loaded] at finished ⊢
      have truncates :=
        @runLoaded_truncates rounds limit script verbosity
      generalize runLoaded rounds script verbosity
          ⟨.fresh, .unlimited, .start verbosity.traceInterpreter⟩ = outcome
        at finished truncates
      generalize runLoaded rounds script verbosity
          ⟨.fresh, .withRoom (some limit),
            .start verbosity.traceInterpreter⟩ = otherOutcome
        at truncates ⊢
      cases outcome with
      | unfinished =>
          cases finished
      | completed last =>
          cases finished
          cases truncates rfl with
          | whole related =>
              cases related with
              | completed inStep =>
                  exact ⟨_, rfl, .of_inStep inStep.output rfl rfl
                    inStep.interpreter.symm⟩
          | cut crosses cutOff =>
              exact ⟨_, rfl, .of_cutOff loaded crosses cutOff rfl rfl⟩
      | failed failure last =>
          cases finished
          cases truncates rfl with
          | whole related =>
              cases related with
              | failed _ inStep =>
                  exact ⟨_, rfl, .of_inStep inStep.output rfl rfl
                    inStep.interpreter.symm⟩
          | cut crosses cutOff =>
              exact ⟨_, rfl, .of_cutOff loaded crosses cutOff rfl rfl⟩

/-- A script that prints a variable twice and then fails, under every path. -/
def printsTwiceThenFails : Files :=
  fun _ => some "let a = 1; print a; a = 2; print a; print b".toUTF8

/--
With room for three bytes of four, the cut run has written just these and
reports the closed output.
-/
theorem printsTwiceThenFails_isTruncated :
    ∃ full cut,
      carryOut 0 printsTwiceThenFails (.run "a" .quiet) .unlimited
          .unlimited = some full ∧
        full.output.delivered = "1\n2\n".toUTF8 ∧
        carryOut 0 printsTwiceThenFails (.run "a" .quiet)
            (.withRoom (some 3)) .unlimited = some cut ∧
        cut.output.delivered = full.output.delivered.extract 0 3 ∧
        cut.code = 1 ∧
        cut.errors =
          (Sink.unlimited.write "error: I/O error: closed\n").2 := by
  have printed :
      (carryOut 0 printsTwiceThenFails (.run "a" .quiet) .unlimited
        .unlimited).map (fun full => full.output.delivered) =
          some "1\n2\n".toUTF8 := by
    decide +kernel
  obtain ⟨full, finished, delivered⟩ := Option.map_eq_some_iff.1 printed
  obtain ⟨⟨cut, cutFinished, isTruncated⟩, _⟩ :=
    carryOut_isTruncated 3 finished
  have tooLong : 3 < full.output.delivered.size := by
    rw [delivered]
    decide +kernel
  obtain ⟨prefixOnly, code, reported, _⟩ := isTruncated.crosses tooLong
  exact ⟨full, cut, finished, delivered, cutFinished, prefixOnly, code,
    reported⟩

end Batch

end OwlScript
