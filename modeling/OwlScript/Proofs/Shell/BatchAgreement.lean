import OwlScript.Batch
import OwlScript.Proofs.Run.StraightLine
import OwlScript.Proofs.Script.Loading
import OwlScript.Proofs.Shell.Replies
import OwlScript.Proofs.Shell.TypedLines

namespace OwlScript

/-!
# Batch runs and shells

A batch run and a shell reach the same scripts by different ways: the one
through arguments, with errors in an output of their own, the other through
lines, with everything in one output.  A batch run reports what a new shell
replies to a `load` and a `run`, and with a flag it shows in front what the
shell replies to the two `list` commands.
-/

/-- The argument is a flag, and no path. -/
def Verbosity.IsFlag (argument : String) : Prop :=
  ['-', 'v'] <+: argument.toList

namespace Verbosity

/-- What is no flag asks for no verbosity. -/
theorem ofFlag?_of_not_isFlag
    {argument : String}
    (noFlag : ¬IsFlag argument) :
    ofFlag? argument = none := by
  unfold ofFlag?
  split
  · rename_i letters shape
    refine absurd ?_ noFlag
    rw [IsFlag, shape]
    exact ⟨letters, rfl⟩
  · rfl

/-- Every flag asks for the tokens and the outline. -/
theorem exists_ofFlag?_of_isFlag
    {argument : String}
    (isFlag : IsFlag argument) :
    ∃ verbosity, ofFlag? argument = some verbosity ∧
      verbosity.showPipeline = true := by
  obtain ⟨letters, shape⟩ := isFlag
  refine ⟨⟨true, letters.contains 'p', letters.contains 'i'⟩, ?_, rfl⟩
  rw [ofFlag?, ← shape]
  rfl

end Verbosity

namespace Batch

variable {rounds : Nat}
variable {files : Files}
variable {path : String}
variable {verbosity : Verbosity}

/-- An argument that is no flag is the path of a quiet run. -/
theorem carryOut_path
    (noFlag : ¬Verbosity.IsFlag path) :
    carryOut rounds files (.ofArguments [path]) .unlimited .unlimited =
      runPath rounds files path .quiet .unlimited .unlimited := by
  simp only [Invocation.ofArguments, Verbosity.ofFlag?_of_not_isFlag noFlag,
    carryOut]

/-- A flag and a path are a run that shows the pipeline. -/
theorem exists_carryOut_flag
    {flag : String}
    (isFlag : Verbosity.IsFlag flag)
    (rounds : Nat)
    (files : Files)
    (path : String) :
    ∃ verbosity : Verbosity, verbosity.showPipeline = true ∧
      carryOut rounds files (.ofArguments [flag, path]) .unlimited
          .unlimited =
        runPath rounds files path verbosity .unlimited .unlimited := by
  obtain ⟨verbosity, asked, shows⟩ :=
    Verbosity.exists_ofFlag?_of_isFlag isFlag
  refine ⟨verbosity, shows, ?_⟩
  simp only [Invocation.ofArguments, asked, carryOut]

/-- How the end of a run is reported, with errors in an output of their own. -/
inductive Reports : Outcome Execution → BatchResult → Prop where
  | completed
      {state : Execution}
      {result : BatchResult}
      (code : result.code = 0)
      (output : result.output = state.output)
      (errors : result.errors.delivered = ByteArray.empty) :
      Reports (.completed state) result
  | failed
      {failure : Failure}
      {state : Execution}
      {result : BatchResult}
      (code : result.code = 1)
      (output : result.output = state.output)
      (errors :
        result.errors.delivered = (reportLine failure).toUTF8) :
      Reports (.failed failure state) result

/-- A run that is reported is that of the loaded script. -/
theorem reports_of_runPath
    {script : Script}
    {result : BatchResult}
    (loaded : (Script.load files path).outcome = .ok script)
    (ran :
      runPath rounds files path verbosity .unlimited .unlimited =
        some result) :
    Reports
      (runLoaded rounds script verbosity
        ⟨.fresh, .unlimited, .start verbosity.traceInterpreter⟩)
      result := by
  simp only [runPath, loaded] at ran
  generalize runLoaded rounds script verbosity
    ⟨.fresh, .unlimited, .start verbosity.traceInterpreter⟩ = outcome at ran ⊢
  cases outcome with
  | completed state =>
      cases ran
      exact .completed rfl rfl rfl
  | failed failure state =>
      cases ran
      refine .failed rfl rfl ?_
      simp only [fail, @Sink.write_of_unlimited .unlimited rfl]
      exact ByteArray.empty_append
  | unfinished =>
      cases ran

/-- Every run of the loaded script that finishes is reported. -/
theorem exists_runPath_of_finished
    {script : Script}
    {last : Execution}
    (loaded : (Script.load files path).outcome = .ok script)
    (finished :
      (runLoaded rounds script verbosity
        ⟨.fresh, .unlimited, .start verbosity.traceInterpreter⟩).state? =
        some last) :
    ∃ result,
      runPath rounds files path verbosity .unlimited .unlimited =
        some result := by
  simp only [runPath, loaded]
  generalize runLoaded rounds script verbosity
    ⟨.fresh, .unlimited, .start verbosity.traceInterpreter⟩ = outcome
    at finished ⊢
  cases outcome with
  | completed state =>
      exact ⟨_, rfl⟩
  | failed failure state =>
      exact ⟨_, rfl⟩
  | unfinished =>
      cases finished

/-- What is reported of a run, it has left a state. -/
theorem Reports.exists_state?
    {outcome : Outcome Execution}
    {result : BatchResult}
    (reports : Reports outcome result) :
    ∃ last, outcome.state? = some last := by
  cases reports with
  | completed code output errors =>
      exact ⟨_, rfl⟩
  | failed code output errors =>
      exact ⟨_, rfl⟩

/-- A report is never empty. -/
theorem reportLine_ne_empty (failure : Failure) :
    (reportLine failure).toUTF8 ≠ ByteArray.empty := by
  intro isEmpty
  have sizes := congrArg ByteArray.size isEmpty
  simp [reportLine] at sizes

/-- The exit code says whether there are errors. -/
theorem Reports.code_eq_zero_iff
    {outcome : Outcome Execution}
    {result : BatchResult}
    (reports : Reports outcome result) :
    result.code = 0 ↔ result.errors.delivered = ByteArray.empty := by
  cases reports with
  | completed code output errors =>
      exact ⟨fun _ => errors, fun _ => code⟩
  | @failed failure state result code output errors =>
      rw [code, errors]
      exact ⟨nofun, fun isEmpty => absurd isEmpty (reportLine_ne_empty failure)⟩

/-- A run that shows tokens and outline first is behind one that does not. -/
theorem runLoaded_behind
    (shows : verbosity.showPipeline = true)
    (rounds : Nat)
    (script : Script) :
    (runLoaded rounds script verbosity
        ⟨.fresh, .unlimited, .start verbosity.traceInterpreter⟩).Related
      (Execution.Behind (pipelineText script).toUTF8)
      (runLoaded rounds script .quiet
        ⟨.fresh, .unlimited, .start Verbosity.quiet.traceInterpreter⟩) := by
  have behind :
      Execution.Behind (pipelineText script).toUTF8
        ⟨.fresh, ⟨ByteArray.empty ++ (pipelineText script).toUTF8, none⟩,
          .start verbosity.traceInterpreter⟩
        ⟨.fresh, .unlimited, .start Verbosity.quiet.traceInterpreter⟩ :=
    { interpreter := rfl
      output :=
        { room := rfl
          otherRoom := rfl
          delivered := by simp [Sink.unlimited] } }
  have related := Program.run_behind rounds script.program behind
  simp only [runLoaded, shows, if_true, Execution.deliver,
    writePipeline_eq_write, @Sink.write_of_unlimited .unlimited rfl]
  exact related

/-- Runs side by side are reported alike. -/
theorem Reports.of_related
    {front : ByteArray}
    {outcome otherOutcome : Outcome Execution}
    {result other : BatchResult}
    (related : outcome.Related (Execution.Behind front) otherOutcome)
    (reports : Reports outcome result)
    (otherReports : Reports otherOutcome other) :
    result.code = other.code ∧
      result.errors.delivered = other.errors.delivered ∧
        result.output.delivered = front ++ other.output.delivered := by
  cases related with
  | completed behind =>
      cases reports with
      | completed code output errors =>
          cases otherReports with
          | completed otherCode otherOutput otherErrors =>
              rw [code, otherCode, errors, otherErrors, output, otherOutput]
              exact ⟨rfl, rfl, behind.output.delivered⟩
  | failed failure behind =>
      cases reports with
      | failed code output errors =>
          cases otherReports with
          | failed otherCode otherOutput otherErrors =>
              rw [code, otherCode, errors, otherErrors, output, otherOutput]
              exact ⟨rfl, rfl, behind.output.delivered⟩
  | unfinished =>
      cases reports

end Batch

namespace Shell

/-- A shell reports a failed loading in the words of a batch run. -/
theorem reportLine_of_load
    {files : Files}
    {path : String}
    {failure : Failure}
    (failed : (Script.load files path).outcome = .error failure) :
    reportLine failure = Batch.reportLine failure := by
  rcases Script.failure_of_load failed with rfl | ⟨fault, rfl⟩
  · rfl
  · rfl

/-- The shell splits at single spaces, holds the script, and has room. -/
structure Holds (shell : Shell) (script : Script) : Prop where
  rule : shell.rule = .literalSpace
  script : shell.script = some script
  room : shell.output.room = none

variable {rounds : Nat}
variable {files : Files}
variable {path : String}
variable {shell : Shell}
variable {script : Script}

/-- A line of `load` and a path with no blank in it loads the path. -/
theorem parse_load_line
    (notEmpty : path ≠ "")
    (noSpace : ' ' ∉ path.toList) :
    Command.parse (SplitRule.literalSpace.split ("load " ++ path)) =
      .ok (some (.load path)) := by
  have words :
      SplitRule.literalSpace.split ("load " ++ path) = ["load", path] :=
    @SplitRule.split_literalSpace "load" path (by decide) noSpace
  rw [words, Command.parse_load notEmpty]

/-- A line of `run` runs the script that is loaded. -/
theorem parse_run_line :
    Command.parse (SplitRule.literalSpace.split "run") = .ok (some .run) :=
  rfl

/-- A script that cannot be loaded is answered with the report of the batch. -/
theorem replies_load_of_error
    {failure : Failure}
    (notEmpty : path ≠ "")
    (noSpace : ' ' ∉ path.toList)
    (failed : (Script.load files path).outcome = .error failure) :
    ∃ next,
      (fresh .literalSpace .unlimited).Replies rounds files ("load " ++ path)
        (Batch.reportLine failure).toUTF8 next := by
  have performed :
      (fresh .literalSpace .unlimited).perform rounds files (.load path) =
        .failed failure (fresh .literalSpace .unlimited) := by
    simp only [perform, load, failed]
  have replies :=
    Replies.of_failed (parse_load_line notEmpty noSpace) performed rfl
      ByteArray.append_empty.symm
  rw [reportLine_of_load failed, ByteArray.empty_append] at replies
  exact ⟨_, replies⟩

/-- A script that can be loaded is answered with nothing, and is held then. -/
theorem replies_load_of_ok
    (notEmpty : path ≠ "")
    (noSpace : ' ' ∉ path.toList)
    (succeeded : (Script.load files path).outcome = .ok script) :
    (fresh .literalSpace .unlimited).Replies rounds files ("load " ++ path)
      ByteArray.empty ⟨.literalSpace, some script, .fresh, .unlimited⟩ := by
  have performed :
      (fresh .literalSpace .unlimited).perform rounds files (.load path) =
        .completed ⟨.literalSpace, some script, .fresh, .unlimited⟩ := by
    simp only [perform, load, succeeded]
    rfl
  exact .of_completed (parse_load_line notEmpty noSpace) performed rfl
    ByteArray.append_empty.symm

/-- What the first run of a script adds is what a batch run reports of it. -/
theorem replies_run
    {result : BatchResult}
    (reports :
      Batch.Reports
        (script.program.run rounds ⟨.fresh, .unlimited, .start false⟩)
        result)
    (files : Files) :
    ∃ ran,
      (⟨.literalSpace, some script, .fresh, .unlimited⟩ : Shell).Replies
        rounds files "run" (result.output.delivered ++ result.errors.delivered)
        ran := by
  cases ran :
      script.program.run rounds ⟨.fresh, .unlimited, .start false⟩ with
  | completed state =>
      have performed :
          (⟨.literalSpace, some script, .fresh, .unlimited⟩ : Shell).perform
              rounds files .run =
            .completed (afterRun .literalSpace (some script) state) := by
        simp only [perform, runScript, ran]
      rw [ran] at reports
      cases reports with
      | completed code output errors =>
          refine ⟨_, .of_completed parse_run_line performed rfl ?_⟩
          rw [errors, output, ByteArray.append_empty]
          exact ByteArray.empty_append.symm
  | failed failure state =>
      have performed :
          (⟨.literalSpace, some script, .fresh, .unlimited⟩ : Shell).perform
              rounds files .run =
            .failed failure
              (afterRun .literalSpace (some script) state) := by
        simp only [perform, runScript, ran]
      obtain ⟨fault, rfl⟩ :=
        Program.exists_diagnostic_of_run_failed rfl ran
      have finished :
          (script.program.run rounds
            ⟨.fresh, .unlimited, .start false⟩).state? = some state := by
        rw [ran]
        rfl
      have room := Program.room_of_run rfl finished
      rw [ran] at reports
      cases reports with
      | failed code output errors =>
          rw [errors, output]
          exact ⟨_, .of_failed parse_run_line performed room
            ByteArray.empty_append.symm⟩
  | unfinished =>
      rw [ran] at reports
      cases reports

/-- A shell that holds a script lists its tokens. -/
theorem Holds.replies_listTokens
    (holds : shell.Holds script)
    (rounds : Nat)
    (files : Files) :
    ∃ next,
      shell.Replies rounds files "list tokens"
        (Token.listing script.tokens).toUTF8 next := by
  have parsed :
      Command.parse (shell.rule.split "list tokens") =
        .ok (some .listTokens) := by
    rw [holds.rule]
    rfl
  apply Replies.of_write parsed _ rfl holds.room
  simp only [perform_listTokens, tokens, holds.script]

/-- A shell that holds a script lists the outline of its program. -/
theorem Holds.replies_listTree
    (holds : shell.Holds script)
    (rounds : Nat)
    (files : Files) :
    ∃ next,
      shell.Replies rounds files "list ast" script.program.outlineText.toUTF8
        next := by
  have parsed :
      Command.parse (shell.rule.split "list ast") =
        .ok (some .listTree) := by
    rw [holds.rule]
    rfl
  apply Replies.of_write parsed _ rfl holds.room
  simp only [perform_listTree, program?, holds.script, Option.map_some]

/-- A run leaves the script that it runs. -/
theorem Holds.of_replies_run
    {reply : ByteArray}
    {next : Shell}
    (holds : shell.Holds script)
    (replies : shell.Replies rounds files "run" reply next) :
    next.Holds script := by
  have performed :=
    (@handleLine_performs shell next rounds ⟨files, "run"⟩ .proceed holds.room
      replies.handled).2
  have isRun :
      TypedLine.command? shell.rule ⟨files, "run"⟩ = some .run := by
    rw [holds.rule]
    exact TypedLine.command?_of_parse_ok parse_run_line
  rw [isRun] at performed
  exact
    { rule := performed.rule.trans holds.rule
      script := performed.script.trans holds.script
      room := performed.room }

end Shell

namespace Batch

/--
With every flag the batch run has the same errors and the same exit code, and
some bytes in front of the same output.
-/
def ShowsInFront
    (rounds : Nat)
    (files : Files)
    (path : String)
    (quiet : BatchResult)
    (front : ByteArray) : Prop :=
  ∀ flag : String, Verbosity.IsFlag flag →
    ∃ verbose,
      carryOut rounds files (.ofArguments [flag, path]) .unlimited .unlimited =
          some verbose ∧
        verbose.output.delivered = front ++ quiet.output.delivered ∧
          verbose.errors.delivered = quiet.errors.delivered ∧
            verbose.code = quiet.code

/-- The text of the pipeline is the two listings under their headings. -/
theorem toUTF8_pipelineText (script : Script) :
    (pipelineText script).toUTF8 =
      "== tokens ==\n".toUTF8 ++ (Token.listing script.tokens).toUTF8 ++
        "== ast ==\n".toUTF8 ++ script.program.outlineText.toUTF8 ++
        "== output ==\n".toUTF8 := by
  -- For any texts, so that the headings are not looked into.
  have append (first second third fourth fifth : String) :
      (first ++ second ++ third ++ fourth ++ fifth).toUTF8 =
        first.toUTF8 ++ second.toUTF8 ++ third.toUTF8 ++ fourth.toUTF8 ++
          fifth.toUTF8 := by
    simp only [String.toUTF8_eq_toByteArray, String.toByteArray_append]
  exact append _ _ _ _ _

/-- A script that is not loaded is reported, and nothing else. -/
theorem runPath_of_error
    {failure : Failure}
    (failed : (Script.load files path).outcome = .error failure)
    (rounds : Nat)
    (verbosity : Verbosity) :
    ∃ result,
      runPath rounds files path verbosity .unlimited .unlimited =
          some result ∧
        result.output = .unlimited ∧
          result.errors.delivered = (reportLine failure).toUTF8 ∧
            result.code = 1 := by
  simp only [runPath, failed, fail, @Sink.write_of_unlimited .unlimited rfl]
  exact ⟨_, rfl, rfl, ByteArray.empty_append, rfl⟩

/-- A script that cannot be loaded is reported with nothing shown in front. -/
theorem showsInFront_of_error
    {failure : Failure}
    {quiet : BatchResult}
    (failed : (Script.load files path).outcome = .error failure)
    (ran :
      runPath rounds files path .quiet .unlimited .unlimited = some quiet) :
    quiet.output = .unlimited ∧
      quiet.errors.delivered = (reportLine failure).toUTF8 ∧
      quiet.code = 1 ∧
      ShowsInFront rounds files path quiet ByteArray.empty := by
  obtain ⟨result, reported, output, errors, code⟩ :=
    runPath_of_error failed rounds .quiet
  rw [ran] at reported
  cases reported
  refine ⟨output, errors, code, ?_⟩
  intro flag isFlag
  obtain ⟨verbosity, _, carried⟩ :=
    exists_carryOut_flag isFlag rounds files path
  obtain ⟨verbose, reported, verboseOutput, verboseErrors, verboseCode⟩ :=
    runPath_of_error failed rounds verbosity
  refine ⟨verbose, carried.trans reported, ?_, ?_, ?_⟩
  · rw [verboseOutput, output, ByteArray.empty_append]
  · rw [verboseErrors, errors]
  · rw [verboseCode, code]

/-- A script that is loaded is shown before it is run. -/
theorem showsInFront_of_ok
    {script : Script}
    {quiet : BatchResult}
    (loaded : (Script.load files path).outcome = .ok script)
    (ran :
      runPath rounds files path .quiet .unlimited .unlimited = some quiet) :
    ShowsInFront rounds files path quiet (pipelineText script).toUTF8 := by
  intro flag isFlag
  obtain ⟨verbosity, shows, carried⟩ :=
    exists_carryOut_flag isFlag rounds files path
  have reports := reports_of_runPath loaded ran
  have related := runLoaded_behind shows rounds script
  obtain ⟨last, finished⟩ := reports.exists_state?
  obtain ⟨verboseLast, verboseFinished, _⟩ :=
    related.exists_of_state? finished
  obtain ⟨verbose, verboseRan⟩ :=
    exists_runPath_of_finished loaded verboseFinished
  obtain ⟨code, errors, output⟩ :=
    (reports_of_runPath loaded verboseRan).of_related related reports
  exact ⟨verbose, carried.trans verboseRan, output, errors, code⟩

/--
A batch run reports what a new shell replies.  The reply to a `load` is empty
if the script is loaded; if not, it is what the batch run writes to the
errors, with an empty output and exit code 1.  The reply to a `run` behind it
is the output of the batch run with its errors behind, and the exit code is 0
if there are none.  A flag changes neither the errors nor the exit code.  If
the script is loaded, it puts in front of the output what the shell replies to
`list tokens` and to `list ast`, before the run and after it.
-/
theorem carryOut_agrees_with_shell
    {rounds : Nat}
    {files : Files}
    {path : String}
    {quiet : BatchResult}
    (notEmpty : path ≠ "")
    (noSpace : ' ' ∉ path.toList)
    (noFlag : ¬Verbosity.IsFlag path)
    (finished :
      carryOut rounds files (.ofArguments [path]) .unlimited .unlimited =
        some quiet) :
    ∃ loadReply loaded,
      (Shell.fresh .literalSpace .unlimited).Replies rounds files
          ("load " ++ path) loadReply loaded ∧
        (loadReply = ByteArray.empty ↔
          ∃ script, (Script.load files path).outcome = .ok script) ∧
        ((∃ failure, (Script.load files path).outcome = .error failure) →
          quiet.output.delivered = ByteArray.empty ∧
            quiet.errors.delivered = loadReply ∧
            quiet.code = 1 ∧
            ShowsInFront rounds files path quiet ByteArray.empty) ∧
        ((∃ script, (Script.load files path).outcome = .ok script) →
          ∃ ran tokensReply treeReply,
            loaded.Replies rounds files "run"
                (quiet.output.delivered ++ quiet.errors.delivered) ran ∧
              (quiet.code = 0 ↔ quiet.errors.delivered = ByteArray.empty) ∧
              (∀ shell ∈ [loaded, ran],
                (∃ next,
                  shell.Replies rounds files "list tokens" tokensReply
                    next) ∧
                ∃ next,
                  shell.Replies rounds files "list ast" treeReply next) ∧
              ShowsInFront rounds files path quiet
                ("== tokens ==\n".toUTF8 ++ tokensReply ++
                  "== ast ==\n".toUTF8 ++ treeReply ++
                  "== output ==\n".toUTF8)) := by
  rw [carryOut_path noFlag] at finished
  cases loading : (Script.load files path).outcome with
  | error failure =>
      obtain ⟨next, replies⟩ :=
        Shell.replies_load_of_error notEmpty noSpace loading
      obtain ⟨output, errors, code, shows⟩ :=
        showsInFront_of_error loading finished
      refine ⟨_, next, replies, ?_, ?_, nofun⟩
      · exact ⟨fun isEmpty => absurd isEmpty (reportLine_ne_empty failure),
          nofun⟩
      · intro _
        exact ⟨congrArg Sink.delivered output, errors, code, shows⟩
  | ok script =>
      refine ⟨_, _, Shell.replies_load_of_ok notEmpty noSpace loading, ?_,
        nofun, ?_⟩
      · exact ⟨fun _ => ⟨script, rfl⟩, fun _ => rfl⟩
      · intro _
        have reports := reports_of_runPath loading finished
        have holds :
            Shell.Holds ⟨.literalSpace, some script, .fresh, .unlimited⟩
              script :=
          ⟨rfl, rfl, rfl⟩
        obtain ⟨ran, replies⟩ := Shell.replies_run reports files
        refine ⟨ran, (Token.listing script.tokens).toUTF8,
          script.program.outlineText.toUTF8, replies,
          reports.code_eq_zero_iff, ?_, ?_⟩
        · intro shell isOne
          have holdsToo : shell.Holds script := by
            rw [List.mem_cons, List.mem_singleton] at isOne
            rcases isOne with rfl | rfl
            · exact holds
            · exact holds.of_replies_run replies
          exact ⟨holdsToo.replies_listTokens rounds files,
            holdsToo.replies_listTree rounds files⟩
        · rw [← toUTF8_pipelineText]
          exact showsInFront_of_ok loading finished

/-- A script that prints a line and then fails, under every path. -/
def failsAfterPrint : Files :=
  fun _ => some "print 1; print b".toUTF8

/--
A script that fails after a `print` comes to the same in the shell, printed
line and report one behind the other.
-/
theorem failsAfterPrint_agrees_with_shell :
    ∃ quiet loaded ran,
      carryOut 0 failsAfterPrint (.ofArguments ["a"]) .unlimited .unlimited =
          some quiet ∧
        quiet.code = 1 ∧
        (Shell.fresh .literalSpace .unlimited).Replies 0 failsAfterPrint
            ("load " ++ "a") ByteArray.empty loaded ∧
          loaded.Replies 0 failsAfterPrint "run"
            (quiet.output.delivered ++ quiet.errors.delivered) ran := by
  have code :
      (carryOut 0 failsAfterPrint (.ofArguments ["a"]) .unlimited
        .unlimited).map BatchResult.code = some 1 := by
    decide +kernel
  have loads :
      (Script.load failsAfterPrint "a").outcome.toOption.isSome = true := by
    decide +kernel
  obtain ⟨quiet, finished, isOne⟩ := Option.map_eq_some_iff.1 code
  have isLoaded := Script.exists_load_of_isSome loads
  obtain ⟨loadReply, loaded, replies, isEmpty, _, agrees⟩ :=
    carryOut_agrees_with_shell (by decide) (by decide)
      (by unfold Verbosity.IsFlag; decide) finished
  obtain ⟨ran, _, _, runReplies, _⟩ := agrees isLoaded
  rw [isEmpty.2 isLoaded] at replies
  exact ⟨quiet, loaded, ran, finished, isOne, replies, runReplies⟩

end Batch

end OwlScript
