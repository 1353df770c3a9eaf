import OwlScript.Proofs.Run.Truncation
import OwlScript.Proofs.Shell.History

namespace OwlScript

/-!
# Truncated sessions

A shell whose output has a limit is compared with one whose output has none,
line by line.  As long as everything fits, they hold the same.  From the line
that crosses the limit on they need not: a run is stopped midway there, and the
variables differ from then on.  But which script is loaded and when the shell
quits is read off the lines, and nothing that is written later is delivered, so
the output is only truncated.
-/

/-- Shells that hold the same, with outputs that are in step. -/
structure Shell.InStep
    (full : Shell)
    (limit : Nat)
    (limited : Shell) : Prop where
  rule : full.rule = limited.rule
  script : full.script = limited.script
  interpreter : full.interpreter = limited.interpreter
  output : full.output.InStep limit limited.output

/-- Shells with one script, of which one has had its output cut off. -/
structure Shell.CutOff
    (full : Shell)
    (limit : Nat)
    (limited : Shell) : Prop where
  rule : full.rule = limited.rule
  script : full.script = limited.script
  output : full.output.CutOff limit limited.output

/-- What a limit makes of a shell: nothing as yet, or its output is cut off. -/
inductive Shell.Truncated
    (full : Shell)
    (limit : Nat)
    (limited : Shell) : Prop where
  | inStep
      (inStep : full.InStep limit limited)
  | cutOff
      (cutOff : full.CutOff limit limited)

/-- What comes of one command or line where the shells were in step. -/
inductive Shell.Truncates
    (limit : Nat) :
    Outcome Shell → Outcome Shell → Prop where
  | whole
      {outcome otherOutcome : Outcome Shell}
      (related :
        outcome.Related (fun shell other => shell.InStep limit other)
          otherOutcome) :
      Truncates limit outcome otherOutcome
  | cut
      {outcome : Outcome Shell}
      {full limited : Shell}
      (left : outcome.state? = some full)
      (cutOff : full.CutOff limit limited) :
      Truncates limit outcome (.failed .closedOutput limited)

namespace Shell

section Limits

variable {rounds otherRounds limit : Nat}
variable {files : Files}
variable {typed : TypedLine}
variable {full limited after otherAfter : Shell}

/-- Reporting a failure keeps shells in step, or cuts the limited one off. -/
theorem InStep.report
    (inStep : full.InStep limit limited)
    (failure : Failure) :
    (full.report failure).Truncated limit (limited.report failure) := by
  obtain ⟨rule, script, interpreter, output⟩ := inStep
  have written := output.write (reportLine failure)
  unfold Shell.report
  generalize full.output.write (reportLine failure) = answer at written ⊢
  generalize limited.output.write (reportLine failure) = otherAnswer
    at written ⊢
  cases written with
  | inStep fits =>
      exact .inStep ⟨rule, script, interpreter, fits⟩
  | cutOff crosses =>
      exact .cutOff ⟨rule, script, crosses⟩

/-- Writing a text keeps shells in step, or cuts the limited one off. -/
theorem InStep.write
    (inStep : full.InStep limit limited)
    (text : String) :
    Truncates limit (full.write text) (limited.write text) := by
  obtain ⟨rule, script, interpreter, output⟩ := full
  obtain ⟨otherRule, otherScript, otherInterpreter, otherOutput⟩ := limited
  obtain ⟨sameRule, sameScript, sameInterpreter, outputs⟩ := inStep
  have written := outputs.write text
  simp only [Shell.write, Shell.deliver]
  dsimp only at written
  generalize output.write text = answer at written ⊢
  generalize otherOutput.write text = otherAnswer at written ⊢
  cases written with
  | inStep fits =>
      exact .whole
        (.completed ⟨sameRule, sameScript, sameInterpreter, fits⟩)
  | cutOff crosses =>
      exact .cut rfl ⟨sameRule, sameScript, crosses⟩

/-- So does a run of the script. -/
theorem InStep.runScript
    (inStep : full.InStep limit limited)
    (left : (full.runScript rounds).state? = some after)
    (otherLeft : (limited.runScript otherRounds).state? = some otherAfter) :
    Truncates limit (full.runScript rounds)
      (limited.runScript otherRounds) := by
  obtain ⟨rule, loaded, interpreter, output⟩ := full
  obtain ⟨otherRule, otherLoaded, otherInterpreter, otherOutput⟩ := limited
  obtain ⟨sameRule, sameScript, sameInterpreter, outputs⟩ := inStep
  dsimp only at sameRule sameScript sameInterpreter outputs
  subst sameRule sameScript sameInterpreter
  cases loaded with
  | none =>
      exact .whole (.failed _ ⟨rfl, rfl, rfl, outputs⟩)
  | some script =>
      rw [state?_runScript, Option.map_eq_some_iff] at left otherLeft
      obtain ⟨state, ran, _⟩ := left
      obtain ⟨otherState, otherRan, _⟩ := otherLeft
      have starts :
          Execution.InStep ⟨interpreter, output, .start false⟩ limit
            ⟨interpreter, otherOutput, .start false⟩ :=
        ⟨rfl, outputs⟩
      have truncates := Program.run_truncates starts ran otherRan
      unfold Shell.runScript
      dsimp only
      -- Both runs come to an end, so neither of the outcomes is an unfinished
      -- one.
      generalize script.program.run rounds
          ⟨interpreter, output, .start false⟩ = outcome
        at ran truncates ⊢
      generalize script.program.run otherRounds
          ⟨interpreter, otherOutput, .start false⟩ = otherOutcome
        at truncates ⊢
      cases truncates with
      | whole related =>
          cases related with
          | completed ends =>
              exact .whole
                (.completed ⟨rfl, rfl, ends.interpreter, ends.output⟩)
          | failed failure ends =>
              exact .whole
                (.failed failure ⟨rfl, rfl, ends.interpreter, ends.output⟩)
          | unfinished =>
              cases ran
      | cut crosses keeps cutOff =>
          cases outcome with
          | completed state =>
              cases ran
              exact .cut rfl ⟨rfl, rfl, cutOff⟩
          | failed failure state =>
              cases ran
              exact .cut rfl ⟨rfl, rfl, cutOff⟩
          | unfinished =>
              cases ran

/-- A command keeps shells in step, fails in both, or crosses the limit. -/
theorem InStep.perform
    {command : Command}
    (inStep : full.InStep limit limited)
    (left : (full.perform rounds files command).state? = some after)
    (otherLeft :
      (limited.perform otherRounds files command).state? =
        some otherAfter) :
    Truncates limit (full.perform rounds files command)
      (limited.perform otherRounds files command) := by
  cases command with
  | load path =>
      unfold Shell.perform load
      dsimp only
      cases (Script.load files path).outcome with
      | error failure =>
          exact .whole (.failed failure inStep)
      | ok script =>
          exact .whole
            (.completed ⟨inStep.rule, rfl, inStep.interpreter, inStep.output⟩)
  | run =>
      exact inStep.runScript left otherLeft
  | listTokens =>
      have sameTokens : full.tokens = limited.tokens := by
        unfold tokens
        rw [inStep.script]
      rw [perform_listTokens, perform_listTokens, sameTokens]
      exact inStep.write _
  | listTree =>
      have sameProgram : full.program? = limited.program? := by
        unfold program?
        rw [inStep.script]
      rw [perform_listTree, perform_listTree, sameProgram]
      cases limited.program? with
      | none =>
          exact .whole (.completed inStep)
      | some program =>
          exact inStep.write _
  | reset =>
      exact .whole (.completed ⟨inStep.rule, rfl, rfl, inStep.output⟩)
  | spyMemory =>
      unfold Shell.perform
      rw [inStep.interpreter]
      exact inStep.write _
  | help =>
      exact inStep.write _
  | quit =>
      exact .whole (.completed inStep)

/-- So does every line that is attempted. -/
theorem InStep.attempt
    (inStep : full.InStep limit limited)
    (left : (full.attempt rounds typed).state? = some after)
    (otherLeft :
      (limited.attempt otherRounds typed).state? = some otherAfter) :
    Truncates limit (full.attempt rounds typed)
      (limited.attempt otherRounds typed) := by
  unfold Shell.attempt at left otherLeft ⊢
  rw [inStep.rule] at left ⊢
  cases parsed : Command.parse (typed.words limited.rule) with
  | error failure =>
      exact .whole (.failed failure inStep)
  | ok made =>
      rw [parsed] at left otherLeft
      cases made with
      | none =>
          exact .whole (.completed inStep)
      | some command =>
          exact inStep.perform left otherLeft

/-- Reporting a failure may cross the limit too, and else changes nothing. -/
theorem Truncates.settled
    {outcome otherOutcome : Outcome Shell}
    (truncates : Truncates limit outcome otherOutcome)
    (isSettled : Shell.settled outcome = some after)
    (otherSettled : Shell.settled otherOutcome = some otherAfter) :
    after.Truncated limit otherAfter := by
  cases truncates with
  | whole related =>
      cases related with
      | completed inStep =>
          cases isSettled
          cases otherSettled
          exact .inStep inStep
      | failed failure inStep =>
          cases isSettled
          cases otherSettled
          exact inStep.report failure
      | unfinished =>
          cases isSettled
  | @cut state otherState left cutOff =>
      obtain ⟨rule, script, output⟩ := cutOff
      have lost :
          otherState.output.LeadsTo
            (otherState.report .closedOutput).output :=
        .write .nothing _
      cases otherSettled
      cases outcome with
      | completed state =>
          cases left
          cases isSettled
          exact .cutOff ⟨rule, script, output.of_leadsTo .nothing lost⟩
      | failed failure state =>
          cases left
          cases isSettled
          exact .cutOff
            ⟨rule, script, output.of_leadsTo (.write .nothing _) lost⟩
      | unfinished =>
          cases left

/--
Once the output is cut off, a line does what its words say to both shells, and
delivers nothing more, however far apart their interpreters are.
-/
theorem CutOff.settled
    (cutOff : full.CutOff limit limited)
    (isSettled :
      Shell.settled (full.attempt rounds typed) = some after)
    (otherSettled :
      Shell.settled (limited.attempt otherRounds typed) =
        some otherAfter) :
    after.CutOff limit otherAfter := by
  have follows := follows_of_settled isSettled
  have otherFollows := follows_of_settled otherSettled
  exact
    { rule := by
        rw [follows.rule, otherFollows.rule, cutOff.rule]
      script := by
        rw [follows.script, otherFollows.script, cutOff.rule, cutOff.script]
      output := cutOff.output.of_leadsTo follows.output otherFollows.output }

/-- A truncated shell splits lines by the same rule. -/
theorem Truncated.rule
    (truncated : full.Truncated limit limited) :
    full.rule = limited.rule := by
  cases truncated with
  | inStep inStep =>
      exact inStep.rule
  | cutOff cutOff =>
      exact cutOff.rule

/-- A truncated shell has delivered the first bytes of what the full one has. -/
theorem Truncated.delivered
    (truncated : full.Truncated limit limited) :
    limited.output.delivered = full.output.delivered.extract 0 limit := by
  cases truncated with
  | inStep inStep =>
      exact inStep.output.delivered_eq_extract
  | cutOff cutOff =>
      exact cutOff.output.delivered

/-- While the output fits, a truncated shell is in step. -/
theorem Truncated.inStep_of_fits
    (truncated : full.Truncated limit limited)
    (fits : full.output.delivered.size ≤ limit) :
    full.InStep limit limited := by
  cases truncated with
  | inStep inStep =>
      exact inStep
  | cutOff cutOff =>
      exact absurd fits (Nat.not_le_of_lt cutOff.output.crossed)

/-- One line: the shells quit alike, and the limit goes on truncating. -/
theorem Truncated.handleLine
    {flow otherFlow : Flow}
    (truncated : full.Truncated limit limited)
    (answered :
      full.handleLine rounds typed.files typed.line = some (flow, after))
    (otherAnswered :
      limited.handleLine otherRounds typed.files typed.line =
        some (otherFlow, otherAfter)) :
    otherFlow = flow ∧ after.Truncated limit otherAfter := by
  obtain ⟨isFlow, isSettled⟩ := settled_of_handleLine answered
  obtain ⟨isOtherFlow, otherSettled⟩ := settled_of_handleLine otherAnswered
  refine ⟨by rw [isFlow, isOtherFlow, truncated.rule], ?_⟩
  cases truncated with
  | inStep inStep =>
      obtain ⟨_, left, _⟩ := exists_left_of_settled isSettled
      obtain ⟨_, otherLeft, _⟩ := exists_left_of_settled otherSettled
      exact (inStep.attempt left otherLeft).settled isSettled otherSettled
  | cutOff cutOff =>
      exact .cutOff (cutOff.settled isSettled otherSettled)

end Limits

/-- All lines, one after the other. -/
theorem Truncated.after
    {rounds otherRounds limit : Nat}
    {full limited : Shell}
    {lines : List TypedLine}
    {flows otherFlows : List Flow}
    {last otherLast : Shell}
    (truncated : full.Truncated limit limited)
    (answered : full.after rounds lines = some (flows, last))
    (otherAnswered :
      limited.after otherRounds lines = some (otherFlows, otherLast)) :
    otherFlows = flows ∧ last.Truncated limit otherLast := by
  induction lines generalizing full limited flows otherFlows with
  | nil =>
      cases answered
      cases otherAnswered
      exact ⟨rfl, truncated⟩
  | cons typed later hypothesis =>
      obtain ⟨flow, next, rest, handled, goesOn, rfl⟩ :=
        exists_of_after_cons answered
      obtain ⟨otherFlow, otherNext, otherRest, otherHandled, otherGoesOn,
        rfl⟩ := exists_of_after_cons otherAnswered
      obtain ⟨sameFlow, truncatedNext⟩ :=
        truncated.handleLine handled otherHandled
      obtain ⟨sameRest, truncatedLast⟩ :=
        hypothesis truncatedNext goesOn otherGoesOn
      exact ⟨by rw [sameFlow, sameRest], truncatedLast⟩

/--
An output with a limit only truncates a session.  If two shells that begin
alike both come to the end of some lines, one with an output without a limit
and one with a limit, the first bytes of what the one has delivered are what
the other has, and every line is answered with the same flow.  After any of the
lines, as long as what has been delivered without the limit is within it, both
shells hold the same script and the same interpreter.
-/
theorem after_isTruncated
    {rounds otherRounds limit : Nat}
    {rule : SplitRule}
    {script : Option Script}
    {interpreter : Interpreter}
    {lines : List TypedLine}
    {flows otherFlows : List Flow}
    {last otherLast : Shell}
    (answered :
      after rounds lines ⟨rule, script, interpreter, .unlimited⟩ =
        some (flows, last))
    (otherAnswered :
      after otherRounds lines
          ⟨rule, script, interpreter, .withRoom (some limit)⟩ =
        some (otherFlows, otherLast)) :
    otherLast.output.delivered = last.output.delivered.extract 0 limit ∧
      otherFlows = flows ∧
      ∀ before later : List TypedLine,
        lines = before ++ later →
          ∃ earlier otherEarlier middle otherMiddle,
            after rounds before ⟨rule, script, interpreter, .unlimited⟩ =
                some (earlier, middle) ∧
              after otherRounds before
                  ⟨rule, script, interpreter, .withRoom (some limit)⟩ =
                some (otherEarlier, otherMiddle) ∧
              (middle.output.delivered.size ≤ limit →
                otherMiddle.script = middle.script ∧
                  otherMiddle.interpreter = middle.interpreter) := by
  have begin :
      Truncated ⟨rule, script, interpreter, .unlimited⟩ limit
        ⟨rule, script, interpreter, .withRoom (some limit)⟩ :=
    .inStep ⟨rfl, rfl, rfl, Sink.inStep_withRoom limit⟩
  obtain ⟨sameFlows, truncated⟩ := begin.after answered otherAnswered
  refine ⟨truncated.delivered, sameFlows, ?_⟩
  intro before later parts
  rw [parts] at answered otherAnswered
  obtain ⟨earlier, middle, _, reached, _⟩ :=
    exists_of_after_append answered
  obtain ⟨otherEarlier, otherMiddle, _, otherReached, _⟩ :=
    exists_of_after_append otherAnswered
  obtain ⟨_, truncatedMiddle⟩ := begin.after reached otherReached
  refine ⟨earlier, otherEarlier, middle, otherMiddle, reached, otherReached,
    fun fits => ?_⟩
  have inStep := truncatedMiddle.inStep_of_fits fits
  exact ⟨inStep.script.symm, inStep.interpreter.symm⟩

/-- A load, a run that prints two lines, a report on variables, and the end. -/
def printsTwiceThenSpies : List TypedLine :=
  [⟨fun _ => some "let a = 1; print a; a = 2; print a; let b = a".toUTF8,
      "load a"⟩,
    ⟨fun _ => none, "run"⟩, ⟨fun _ => none, "spy memory"⟩,
    ⟨fun _ => none, "exit"⟩]

/--
With room for a line and a half, the second `print` is cut off, and its run has
gone another way than without the limit.
-/
theorem printsTwiceThenSpies_isTruncated :
    ∃ flows last otherLast,
      (fresh .whitespace .unlimited).after 0 printsTwiceThenSpies =
          some (flows, last) ∧
        (fresh .whitespace (.withRoom (some 3))).after 0
            printsTwiceThenSpies =
          some (flows, otherLast) ∧
        otherLast.output.delivered = last.output.delivered.extract 0 3 ∧
        otherLast.interpreter ≠ last.interpreter := by
  have finishes :
      ((fresh .whitespace .unlimited).after 0
        printsTwiceThenSpies).isSome = true := by
    decide +kernel
  have otherFinishes :
      ((fresh .whitespace (.withRoom (some 3))).after 0
        printsTwiceThenSpies).isSome = true := by
    decide +kernel
  have differs :
      ((fresh .whitespace (.withRoom (some 3))).after 0
          printsTwiceThenSpies).map (fun answer => answer.2.interpreter) ≠
        ((fresh .whitespace .unlimited).after 0
          printsTwiceThenSpies).map (fun answer => answer.2.interpreter) := by
    decide +kernel
  obtain ⟨⟨flows, last⟩, answered⟩ := Option.isSome_iff_exists.1 finishes
  obtain ⟨⟨otherFlows, otherLast⟩, otherAnswered⟩ :=
    Option.isSome_iff_exists.1 otherFinishes
  obtain ⟨delivered, sameFlows, _⟩ :=
    after_isTruncated answered otherAnswered
  rw [answered, otherAnswered] at differs
  refine ⟨flows, last, otherLast, answered, ?_, delivered, ?_⟩
  · rw [otherAnswered, sameFlows]
  · intro same
    exact differs (congrArg some same)

end Shell

end OwlScript
