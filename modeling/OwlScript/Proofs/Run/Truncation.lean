import OwlScript.Proofs.Run.TruncatedSink

namespace OwlScript

/-!
# Truncated runs

A run that writes to an output with a limit does the same as the run without a
limit until it begins the print statement that crosses the limit, and fails
there.  So it delivers the first bytes of what the other run delivers, and
keeps the variables that the other run has at that point.

What the statements do is compared where they are unrolled, one step after the
other.  That the run with a limit comes to an end at all, with the same rounds,
is followed along the statements themselves.
-/

/-- Executions of one interpreter whose outputs are in step. -/
structure Execution.InStep
    (full : Execution)
    (limit : Nat)
    (limited : Execution) : Prop where
  interpreter : full.interpreter = limited.interpreter
  output : full.output.InStep limit limited.output

namespace Execution.InStep

variable {limit : Nat}
variable {full limited : Execution}

/-- Executions in step have the same variables. -/
theorem globals (inStep : full.InStep limit limited) :
    full.globals = limited.globals :=
  congrArg Interpreter.globals inStep.interpreter

/-- Executions in step decide a condition alike. -/
theorem holds
    (inStep : full.InStep limit limited)
    (condition : Expression) :
    full.holds condition = limited.holds condition := by
  unfold Execution.holds
  rw [inStep.globals]

/-- Executions in step stay so when both store a value. -/
theorem insert
    (inStep : full.InStep limit limited)
    (name : String)
    (stored : Stored) :
    (full.insert name stored).InStep limit (limited.insert name stored) where
  interpreter := by
    unfold Execution.insert
    rw [inStep.globals, inStep.interpreter]
  output := inStep.output

end Execution.InStep

namespace Statement

/--
What comes of one simple statement where the executions were in step.  They
stay so, or fail alike and change nothing, or the statement prints a line that
crosses the limit: then the execution with the limit keeps its variables.
-/
inductive Truncates
    (statement : Statement)
    (full : Execution)
    (limit : Nat)
    (limited : Execution) :
    Outcome Execution → Outcome Execution → Prop where
  | completed
      {next otherNext : Execution}
      (inStep : next.InStep limit otherNext) :
      Truncates statement full limit limited (.completed next)
        (.completed otherNext)
  | failed
      (failure : Failure) :
      Truncates statement full limit limited (.failed failure full)
        (.failed failure limited)
  | crosses
      {position : Position}
      {arguments : List Expression}
      {line : String}
      {next cut : Execution}
      (isPrint : statement = .print position arguments)
      (printed : printedLine full.globals arguments = .ok line)
      (delivered :
        next.output.delivered = full.output.delivered ++ line.toUTF8)
      (keeps : cut.interpreter = full.interpreter)
      (cutOff : next.output.CutOff limit cut.output) :
      Truncates statement full limit limited (.completed next)
        (.failed .closedOutput cut)

/--
A simple statement goes on in step, or is cut off where it writes too much.
-/
theorem execute_truncates
    {statement : Statement}
    (simple : statement.isSimple = true)
    {full limited : Execution}
    {limit : Nat}
    (inStep : full.InStep limit limited) :
    statement.Truncates full limit limited (statement.execute 0 full)
      (statement.execute 0 limited) := by
  have sameGlobals := inStep.globals
  cases statement with
  | branch position condition thenBody elseBody =>
      cases simple
  | loop position condition body =>
      cases simple
  | bind position name value =>
      simp only [execute, executeBind, ← sameGlobals]
      cases value.evaluate full.globals with
      | error fault =>
          exact .failed _
      | ok stored =>
          refine .completed (Execution.InStep.insert ?_ name stored)
          exact ⟨inStep.interpreter, inStep.output⟩
  | assign position name value =>
      simp only [execute, executeAssign, ← sameGlobals]
      cases value.evaluate full.globals with
      | error fault =>
          exact .failed _
      | ok stored =>
          cases full.globals.contains name with
          | true =>
              exact .completed (inStep.insert name stored)
          | false =>
              exact .failed _
  | print position arguments =>
      simp only [execute, executePrint, ← sameGlobals]
      cases printed : printedLine full.globals arguments with
      | error fault =>
          exact .failed _
      | ok line =>
          obtain ⟨interpreter, output, trace⟩ := full
          obtain ⟨otherInterpreter, otherOutput, otherTrace⟩ := limited
          have delivered :=
            Sink.delivered_write inStep.output.unlimited line
          have written := inStep.output.write line
          simp only [Execution.write, Execution.deliver]
          generalize output.write line = answer at written delivered ⊢
          generalize otherOutput.write line = otherAnswer at written ⊢
          cases written with
          | inStep after =>
              exact .completed ⟨inStep.interpreter, after⟩
          | cutOff cutOff =>
              exact .crosses rfl printed delivered inStep.interpreter.symm
                cutOff
  | evaluate expression =>
      simp only [execute, executeEvaluate, ← sameGlobals]
      cases expression.evaluate full.globals with
      | error fault =>
          exact .failed _
      | ok stored =>
          exact .completed inStep

/-- The statements are completed one after the other. -/
inductive Completes : List Statement → Execution → Execution → Prop where
  | nothing
      (state : Execution) :
      Completes [] state state
  | next
      {statement : Statement}
      {rest : List Statement}
      {state middle last : Execution}
      (executed : statement.execute 0 state = .completed middle)
      (later : Completes rest middle last) :
      Completes (statement :: rest) state last

end Statement

namespace Unrolls

/--
The last state of statements that are unrolled with a limit, compared with the
same statements without it.  They come to the same end in step, or the limit
is crossed by a print statement: all that is completed before it is completed,
its arguments are evaluated, and there the statements fail.
-/
inductive Truncates
    (block : List Statement)
    (full : Execution)
    (completed : List Statement)
    (ending : Ending)
    (last : Execution)
    (limit : Nat)
    (limited : Execution) :
    Execution → Prop where
  | whole
      {otherLast : Execution}
      (unrolls : Unrolls block limited completed ending otherLast)
      (inStep : last.InStep limit otherLast) :
      Truncates block full completed ending last limit limited otherLast
  | cut
      {before later : List Statement}
      {position : Position}
      {arguments : List Expression}
      {line : String}
      {middle cut : Execution}
      (shape : completed = before ++ .print position arguments :: later)
      (reaches : Statement.Completes before full middle)
      (printed :
        Statement.printedLine middle.globals arguments = .ok line)
      (fits : middle.output.delivered.size ≤ limit)
      (crosses :
        limit < (middle.output.delivered ++ line.toUTF8).size)
      (unrolls :
        Unrolls block limited before
          (.atStatement (.print position arguments) .closedOutput) cut)
      (keeps : cut.interpreter = middle.interpreter)
      (cutOff : last.output.CutOff limit cut.output) :
      Truncates block full completed ending last limit limited cut

variable {block inner completed : List Statement}
variable {state full last limited otherLast : Execution}
variable {ending : Ending}
variable {limit : Nat}

/-- A step that completes nothing does not change how statements end. -/
theorem Truncates.of_step
    (step :
      ∀ {completed ending otherLast},
        Unrolls inner limited completed ending otherLast →
          Unrolls block limited completed ending otherLast)
    (truncates :
      Truncates inner full completed ending last limit limited otherLast) :
    Truncates block full completed ending last limit limited otherLast := by
  cases truncates with
  | whole unrolls inStep =>
      exact .whole (step unrolls) inStep
  | cut shape reaches printed fits crosses unrolls keeps cutOff =>
      exact .cut shape reaches printed fits crosses (step unrolls) keeps cutOff

/-- A statement that both complete comes in front of what they do later. -/
theorem Truncates.cons
    {statement : Statement}
    {rest : List Statement}
    {next otherNext : Execution}
    (simple : statement.isSimple = true)
    (executed : statement.execute 0 full = .completed next)
    (otherExecuted : statement.execute 0 limited = .completed otherNext)
    (later :
      Truncates rest next completed ending last limit otherNext otherLast) :
    Truncates (statement :: rest) full (statement :: completed) ending last
      limit limited otherLast := by
  cases later with
  | whole unrolls inStep =>
      exact .whole (.completes simple otherExecuted unrolls) inStep
  | cut shape reaches printed fits crosses unrolls keeps cutOff =>
      rw [shape]
      exact .cut rfl (.next executed reaches) printed fits crosses
        (.completes simple otherExecuted unrolls) keeps cutOff

/-- Whatever statements come to without a limit, the limit only truncates it. -/
theorem exists_truncates
    (unrolls : Unrolls block full completed ending last)
    (inStep : full.InStep limit limited) :
    ∃ otherLast,
      Truncates block full completed ending last limit limited otherLast := by
  -- The executions stay in step up to the first `print` that does not fit.
  -- From there on, the full one only has to lead on to what it ends with.
  induction unrolls generalizing limited with
  | reached state =>
      exact ⟨limited, .whole (.reached limited) inStep⟩
  | @completes statement rest completed state next last ending simple executed
      later hypothesis =>
      have truncates := Statement.execute_truncates simple inStep
      rw [executed] at truncates
      generalize otherExecuted : statement.execute 0 limited = outcome
        at truncates
      cases truncates with
      | completed inStepNext =>
          obtain ⟨otherLast, truncatesLater⟩ := hypothesis inStepNext
          exact ⟨otherLast, .cons simple executed otherExecuted truncatesLater⟩
      | @crosses position arguments line _ cut isPrint printed delivered keeps
          cutOff =>
          have crossed := cutOff.crossed
          rw [isPrint] at otherExecuted ⊢
          rw [delivered] at crossed
          have shape :
              Statement.print position arguments :: completed =
                [] ++ .print position arguments :: completed :=
            rfl
          exact ⟨cut, .cut shape (.nothing state) printed inStep.output.fits
            crossed (.fails rfl otherExecuted) keeps
            (cutOff.of_leadsTo later.leadsTo .nothing)⟩
  | @fails statement rest state last failure simple executed =>
      have truncates := Statement.execute_truncates simple inStep
      rw [executed] at truncates
      generalize otherExecuted : statement.execute 0 limited = outcome
        at truncates
      cases truncates with
      | failed _ =>
          exact ⟨limited, .whole (.fails simple otherExecuted) inStep⟩
  | branchThen holds later hypothesis =>
      obtain ⟨otherLast, truncates⟩ := hypothesis inStep
      rw [inStep.holds] at holds
      exact ⟨otherLast, truncates.of_step (.branchThen holds)⟩
  | branchElse holds later hypothesis =>
      obtain ⟨otherLast, truncates⟩ := hypothesis inStep
      rw [inStep.holds] at holds
      exact ⟨otherLast, truncates.of_step (.branchElse holds)⟩
  | branchFails holds =>
      rw [inStep.holds] at holds
      exact ⟨limited, .whole (.branchFails holds) inStep⟩
  | loopAgain holds later hypothesis =>
      obtain ⟨otherLast, truncates⟩ := hypothesis inStep
      rw [inStep.holds] at holds
      exact ⟨otherLast, truncates.of_step (.loopAgain holds)⟩
  | loopEnds holds later hypothesis =>
      obtain ⟨otherLast, truncates⟩ := hypothesis inStep
      rw [inStep.holds] at holds
      exact ⟨otherLast, truncates.of_step (.loopEnds holds)⟩
  | loopFails holds =>
      rw [inStep.holds] at holds
      exact ⟨limited, .whole (.loopFails holds) inStep⟩

end Unrolls

/-- Of two executions, the other one ends no later, or they go on in step. -/
inductive Outcome.EndsInTime
    (limit : Nat) :
    Outcome Execution → Outcome Execution → Prop where
  | inStep
      {full limited : Execution}
      (inStep : full.InStep limit limited) :
      EndsInTime limit (.completed full) (.completed limited)
  | failed
      (outcome : Outcome Execution)
      (failure : Failure)
      (state : Execution) :
      EndsInTime limit outcome (.failed failure state)
  | unfinished
      (outcome : Outcome Execution) :
      EndsInTime limit .unfinished outcome

/-- If the one has come to an end, so has the other. -/
theorem Outcome.EndsInTime.exists_state?
    {limit : Nat}
    {outcome otherOutcome : Outcome Execution}
    {last : Execution}
    (inTime : outcome.EndsInTime limit otherOutcome)
    (finished : outcome.state? = some last) :
    ∃ otherLast, otherOutcome.state? = some otherLast := by
  cases inTime with
  | inStep inStep =>
      exact ⟨_, rfl⟩
  | failed outcome failure state =>
      exact ⟨state, rfl⟩
  | unfinished outcome =>
      cases finished

namespace Execution.InStep

variable {limit : Nat}
variable {full limited : Execution}

/-- A simple statement ends in time, in any number of rounds. -/
theorem execute_of_isSimple
    (inStep : full.InStep limit limited)
    {statement : Statement}
    (simple : statement.isSimple = true)
    (rounds : Nat) :
    (statement.execute rounds full).EndsInTime limit
      (statement.execute rounds limited) := by
  have truncates := Statement.execute_truncates simple inStep
  rw [Statement.execute_of_isSimple simple rounds full,
    Statement.execute_of_isSimple simple rounds limited]
  generalize statement.execute 0 full = outcome at truncates ⊢
  generalize statement.execute 0 limited = otherOutcome at truncates ⊢
  cases truncates with
  | completed inStepNext =>
      exact .inStep inStepNext
  | failed failure =>
      exact .failed _ failure limited
  | crosses isPrint printed delivered keeps cutOff =>
      exact .failed _ _ _

/-- A loop ends in time if its body does. -/
theorem repeatWhile
    (inStep : full.InStep limit limited)
    {body : Execution → Outcome Execution}
    (bodyInTime :
      ∀ {full limited : Execution}, full.InStep limit limited →
        (body full).EndsInTime limit (body limited))
    (condition : Expression)
    (rounds : Nat) :
    (OwlScript.repeatWhile (fun current => current.holds condition) body
        rounds full).EndsInTime limit
      (OwlScript.repeatWhile (fun current => current.holds condition) body
        rounds limited) := by
  induction rounds generalizing full limited with
  | zero =>
      exact .unfinished _
  | succ rounds hypothesis =>
      simp only [OwlScript.repeatWhile, inStep.holds]
      cases limited.holds condition with
      | error fault =>
          exact .failed _ _ _
      | ok truth =>
          cases truth with
          | false =>
              exact .inStep inStep
          | true =>
              have once := bodyInTime inStep
              dsimp only
              generalize body full = outcome at once ⊢
              generalize body limited = otherOutcome at once ⊢
              cases once with
              | inStep inStepAfter =>
                  exact hypothesis inStepAfter
              | failed outcome failure state =>
                  exact .failed _ failure state
              | unfinished outcome =>
                  exact .unfinished _

mutual

/-- A statement with a limit comes to an end if it does without one. -/
theorem execute
    (rounds : Nat) :
    (statement : Statement) →
      ∀ {full limited : Execution}, full.InStep limit limited →
        (statement.execute rounds full).EndsInTime limit
          (statement.execute rounds limited)
  | .bind .., _, _, inStep => inStep.execute_of_isSimple rfl rounds
  | .assign .., _, _, inStep => inStep.execute_of_isSimple rfl rounds
  | .print .., _, _, inStep => inStep.execute_of_isSimple rfl rounds
  | .branch _ condition thenBody none, _, limited, inStep => by
      simp only [Statement.execute, inStep.holds]
      cases limited.holds condition with
      | error fault =>
          exact .failed _ _ _
      | ok truth =>
          cases truth with
          | true =>
              exact executeBlock rounds thenBody inStep
          | false =>
              exact .inStep inStep
  | .branch _ condition thenBody (some body), _, limited, inStep => by
      simp only [Statement.execute, inStep.holds]
      cases limited.holds condition with
      | error fault =>
          exact .failed _ _ _
      | ok truth =>
          cases truth with
          | true =>
              exact executeBlock rounds thenBody inStep
          | false =>
              exact executeBlock rounds body inStep
  | .loop _ condition body, _, _, inStep =>
      inStep.repeatWhile (executeBlock rounds body) condition rounds
  | .evaluate _, _, _, inStep => inStep.execute_of_isSimple rfl rounds

/-- So do the statements of a block. -/
theorem executeBlock
    (rounds : Nat) :
    (block : List Statement) →
      ∀ {full limited : Execution}, full.InStep limit limited →
        (Statement.executeBlock rounds block full).EndsInTime limit
          (Statement.executeBlock rounds block limited)
  | [], _, _, inStep => .inStep inStep
  | statement :: rest, full, limited, inStep => by
      have announced :
          (full.announce statement).InStep limit
            (limited.announce statement) :=
        ⟨inStep.interpreter, inStep.output⟩
      have first := execute rounds statement announced
      simp only [Statement.executeBlock]
      generalize statement.execute rounds (full.announce statement) = outcome
        at first ⊢
      generalize statement.execute rounds (limited.announce statement) =
        otherOutcome at first ⊢
      cases first with
      | inStep inStepAfter =>
          exact executeBlock rounds rest inStepAfter
      | failed outcome failure state =>
          exact .failed _ failure state
      | unfinished outcome =>
          exact .unfinished _

end

end Execution.InStep

/--
A print statement of some statements crosses the limit.  In the middle, where
the statements before it have been completed and its arguments evaluated, what
has been delivered is within the limit, and with its line it is not.
-/
inductive Statement.Crosses
    (block : List Statement)
    (start last : Execution)
    (limit : Nat)
    (middle : Execution) : Prop where
  | intro
      {before later : List Statement}
      {position : Position}
      {arguments : List Expression}
      {line : String}
      {ending : Ending}
      (unrolls :
        Unrolls block start (before ++ .print position arguments :: later)
          ending last)
      (reaches : Completes before start middle)
      (printed : printedLine middle.globals arguments = .ok line)
      (fits : middle.output.delivered.size ≤ limit)
      (crosses : limit < (middle.output.delivered ++ line.toUTF8).size)

/--
What comes of a run with a limit where the run without it comes to an end.
-/
inductive Program.Truncates
    (program : Program)
    (full last : Execution)
    (limit : Nat) :
    Outcome Execution → Outcome Execution → Prop where
  | whole
      {outcome otherOutcome : Outcome Execution}
      (related :
        outcome.Related (fun state other => state.InStep limit other)
          otherOutcome) :
      Truncates program full last limit outcome otherOutcome
  | cut
      {outcome : Outcome Execution}
      {middle cut : Execution}
      (crosses :
        Statement.Crosses program.statements
          (full.counted program.statements.length).untraced last.untraced
          limit middle)
      (keeps : cut.interpreter = middle.interpreter)
      (cutOff : last.output.CutOff limit cut.output) :
      Truncates program full last limit outcome (.failed .closedOutput cut)

namespace Program

variable {program : Program}
variable {full limited last otherLast : Execution}
variable {limit rounds otherRounds : Nat}

/-- Counting statements keeps executions in step. -/
theorem inStep_counted
    (inStep : full.InStep limit limited)
    (statements : Nat) :
    (full.counted statements).InStep limit (limited.counted statements) where
  interpreter := by
    simp only [Execution.counted, inStep.interpreter]
  output := inStep.output

/-- Wherever a run comes to an end, so does the run with a limit. -/
theorem exists_state?_of_inStep
    (inStep : full.InStep limit limited)
    (finished : (program.run rounds full).state? = some last) :
    ∃ otherLast, (program.run rounds limited).state? = some otherLast := by
  rw [run_eq] at finished ⊢
  exact (Execution.InStep.executeBlock rounds program.statements
    (inStep_counted inStep _)).exists_state? finished

/--
A limit only truncates a run.  If both runs come to an end, they do so in step
and alike, or the run with the limit fails for want of room where the other
one begins the print statement that crosses the limit.
-/
theorem run_truncates
    (inStep : full.InStep limit limited)
    (finished : (program.run rounds full).state? = some last)
    (otherFinished :
      (program.run otherRounds limited).state? = some otherLast) :
    program.Truncates full last limit (program.run rounds full)
      (program.run otherRounds limited) := by
  rw [run_eq] at finished otherFinished
  obtain ⟨completed, ending, unrolls, outcome⟩ :=
    Statement.exists_unrolls_of_executeBlock finished
  obtain ⟨otherCompleted, otherEnding, otherUnrolls, otherOutcome⟩ :=
    Statement.exists_unrolls_of_executeBlock otherFinished
  have untraced :
      (full.counted program.statements.length).untraced.InStep limit
        (limited.counted program.statements.length).untraced := by
    have counted := inStep_counted inStep program.statements.length
    exact ⟨counted.interpreter, counted.output⟩
  obtain ⟨reached, truncates⟩ := unrolls.exists_truncates untraced
  rw [run_eq, run_eq, outcome, otherOutcome]
  cases truncates with
  | whole alsoUnrolls inStepLast =>
      obtain ⟨_, rfl, rfl⟩ := alsoUnrolls.unique otherUnrolls
      refine .whole ?_
      have inStepEnd : last.InStep limit otherLast :=
        ⟨inStepLast.interpreter, inStepLast.output⟩
      cases otherEnding with
      | reached =>
          exact .completed inStepEnd
      | atStatement statement failure =>
          exact .failed failure inStepEnd
      | atCondition condition fault =>
          exact .failed _ inStepEnd
  | cut shape reaches printed fits crosses alsoUnrolls keeps cutOff =>
      obtain ⟨_, rfl, rfl⟩ := alsoUnrolls.unique otherUnrolls
      rw [shape] at unrolls
      exact .cut (.intro unrolls reaches printed fits crosses) keeps cutOff

end Program

end OwlScript
