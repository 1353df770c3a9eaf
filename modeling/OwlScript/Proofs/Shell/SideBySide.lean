import OwlScript.Proofs.Run.OutputIndependence
import OwlScript.Proofs.Run.WrittenPieces

namespace OwlScript

/-!
# Shells side by side

Two shells that hold the same and differ only in the bytes delivered in front
give the same answers to the same lines and go on holding the same.  What each
of them writes from there on is the same as well.
-/

/-- Two shells that hold the same, one with more bytes in front. -/
structure Shell.Behind (front : ByteArray) (shell other : Shell) : Prop where
  rule : shell.rule = other.rule
  script : shell.script = other.script
  interpreter : shell.interpreter = other.interpreter
  output : shell.output.Behind front other.output

/-- The same answer twice, with shells that hold the same behind it. -/
structure Shell.AnswersAlike
    {Answer : Type}
    (front : ByteArray)
    (first second : Answer × Shell) : Prop where
  same : first.1 = second.1
  behind : first.2.Behind front second.2

namespace Shell

variable {front : ByteArray}
variable {shell other : Shell}

/-- What was written before makes no difference to the tokens. -/
theorem Behind.tokens (behind : shell.Behind front other) :
    shell.tokens = other.tokens := by
  unfold Shell.tokens
  rw [behind.script]

/-- What was written before makes no difference to the program. -/
theorem Behind.program? (behind : shell.Behind front other) :
    shell.program? = other.program? := by
  unfold Shell.program?
  rw [behind.script]

/-- What was written before makes no difference to writing more. -/
theorem Behind.write
    (behind : shell.Behind front other)
    (text : String) :
    (shell.write text).Related (Behind front) (other.write text) := by
  obtain ⟨rule, script, interpreter, output⟩ := shell
  obtain ⟨otherRule, otherScript, otherInterpreter, otherOutput⟩ := other
  obtain ⟨after, otherAfter, written, otherWritten, behindAfter⟩ :=
    behind.output.write text
  simp only [Shell.write, Shell.deliver, written, otherWritten]
  exact .completed
    ⟨behind.rule, behind.script, behind.interpreter, behindAfter⟩

/-- What was written before makes no difference to reporting a failure. -/
theorem Behind.report
    (behind : shell.Behind front other)
    (failure : Failure) :
    (shell.report failure).Behind front (other.report failure) := by
  obtain ⟨after, otherAfter, written, otherWritten, behindAfter⟩ :=
    behind.output.write (reportLine failure)
  refine ⟨behind.rule, behind.script, behind.interpreter, ?_⟩
  simp only [Shell.report, written, otherWritten]
  exact behindAfter

/-- What was written before makes no difference to loading a script. -/
theorem Behind.load
    (behind : shell.Behind front other)
    (files : Files)
    (path : String) :
    (shell.load files path).Related (Behind front)
      (other.load files path) := by
  unfold Shell.load
  cases (Script.load files path).outcome with
  | error failure =>
      exact .failed failure behind
  | ok script =>
      exact .completed
        ⟨behind.rule, rfl, behind.interpreter, behind.output⟩

/-- What was written before makes no difference to running it. -/
theorem Behind.runScript
    (behind : shell.Behind front other)
    (rounds : Nat) :
    (shell.runScript rounds).Related (Behind front)
      (other.runScript rounds) := by
  obtain ⟨rule, loaded, interpreter, output⟩ := shell
  obtain ⟨otherRule, otherLoaded, otherInterpreter, otherOutput⟩ := other
  obtain ⟨rfl, rfl, rfl, outputBehind⟩ := behind
  cases loaded with
  | none =>
      exact .failed _ ⟨rfl, rfl, rfl, outputBehind⟩
  | some script =>
      have executions :
          Execution.Behind front ⟨interpreter, output, RunTrace.start false⟩
            ⟨interpreter, otherOutput, RunTrace.start false⟩ :=
        ⟨rfl, outputBehind⟩
      have related := Program.run_behind rounds script.program executions
      unfold Shell.runScript
      dsimp only
      generalize script.program.run rounds
        ⟨interpreter, output, RunTrace.start false⟩ = outcome at related ⊢
      generalize script.program.run rounds
        ⟨interpreter, otherOutput, RunTrace.start false⟩ = otherOutcome
        at related ⊢
      cases related with
      | completed related =>
          exact .completed ⟨rfl, rfl, related.interpreter, related.output⟩
      | failed failure related =>
          exact .failed failure
            ⟨rfl, rfl, related.interpreter, related.output⟩
      | unfinished =>
          exact .unfinished

/-- A command does the same to shells that hold the same. -/
theorem Behind.perform
    (behind : shell.Behind front other)
    (rounds : Nat)
    (files : Files)
    (command : Command) :
    (shell.perform rounds files command).Related (Behind front)
      (other.perform rounds files command) := by
  cases command with
  | load path =>
      exact behind.load files path
  | run =>
      exact behind.runScript rounds
  | listTokens =>
      rw [perform_listTokens, perform_listTokens, behind.tokens]
      exact behind.write _
  | listTree =>
      rw [perform_listTree, perform_listTree, behind.program?]
      cases other.program? with
      | none =>
          exact .completed behind
      | some program =>
          exact behind.write _
  | reset =>
      exact .completed ⟨behind.rule, rfl, rfl, behind.output⟩
  | spyMemory =>
      simp only [Shell.perform, behind.interpreter]
      exact behind.write _
  | help =>
      exact behind.write helpText
  | quit =>
      exact .completed behind

/-- A line is answered alike by shells that hold the same. -/
theorem Behind.handleLine
    (behind : shell.Behind front other)
    (rounds : Nat)
    (files : Files)
    (line : String) :
    Option.Rel (AnswersAlike front) (shell.handleLine rounds files line)
      (other.handleLine rounds files line) := by
  unfold Shell.handleLine
  rw [behind.rule]
  cases Command.parse (other.rule.split line) with
  | error failure =>
      exact .some ⟨rfl, behind.report failure⟩
  | ok made =>
      cases made with
      | none =>
          exact .some ⟨rfl, behind⟩
      | some command =>
          have related := behind.perform rounds files command
          dsimp only
          generalize shell.perform rounds files command = outcome
            at related ⊢
          generalize other.perform rounds files command = otherOutcome
            at related ⊢
          cases related with
          | completed related =>
              exact .some ⟨rfl, related⟩
          | failed failure related =>
              exact .some ⟨rfl, related.report failure⟩
          | unfinished =>
              exact .none

end Shell

end OwlScript
