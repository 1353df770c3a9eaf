import OwlScript.Proofs.Run.Unrolling

namespace OwlScript

/-!
# What a run does to its output

Whatever a run comes to, and however much room there is, all that it does to
its output is to write texts to it.
-/

/-- The sinks that come of one by writing texts to it, as far as they fit. -/
inductive Sink.LeadsTo (sink : Sink) : Sink → Prop where
  | nothing :
      LeadsTo sink sink
  | write
      {middle : Sink}
      (leads : LeadsTo sink middle)
      (text : String) :
      LeadsTo sink (middle.write text).2

namespace Sink

variable {sink middle after : Sink}

/-- What one write leads to and the next goes on with, both lead to. -/
theorem LeadsTo.trans
    (leads : sink.LeadsTo middle)
    (leadsOn : middle.LeadsTo after) :
    sink.LeadsTo after := by
  induction leadsOn with
  | nothing =>
      exact leads
  | write _ text hypothesis =>
      exact hypothesis.write text

/-- Without a limit, texts are added to what has been delivered. -/
theorem LeadsTo.exists_delivered
    (leads : sink.LeadsTo after)
    (unlimited : sink.room = none) :
    after.room = none ∧
      ∃ more, after.delivered = sink.delivered ++ more := by
  induction leads with
  | nothing =>
      exact ⟨unlimited, _, ByteArray.append_empty.symm⟩
  | write _ text hypothesis =>
      obtain ⟨room, more, delivered⟩ := hypothesis
      rw [write_of_unlimited room, delivered, ByteArray.append_assoc]
      exact ⟨rfl, _, rfl⟩

end Sink

/-- The output after a text, whether it has fitted or not. -/
theorem Execution.output_of_write
    {state next : Execution}
    {text : String}
    (left : (state.write text).state? = some next) :
    next.output = (state.output.write text).2 := by
  obtain ⟨interpreter, output, trace⟩ := state
  unfold Execution.write Execution.deliver at left
  dsimp only at left ⊢
  generalize output.write text = answer at left ⊢
  obtain ⟨fits, after⟩ := answer
  cases fits with
  | true =>
      cases left
      rfl
  | false =>
      cases left
      rfl

/-- Writing leaves the interpreter alone, whether the text fits or not. -/
theorem Execution.interpreter_of_write
    {state next : Execution}
    {text : String}
    (left : (state.write text).state? = some next) :
    next.interpreter = state.interpreter := by
  obtain ⟨interpreter, output, trace⟩ := state
  unfold write deliver at left
  dsimp only at left ⊢
  generalize output.write text = answer at left
  obtain ⟨fits, after⟩ := answer
  cases fits with
  | true =>
      cases left
      rfl
  | false =>
      cases left
      rfl

/-- A simple statement does no more to the output than to write to it. -/
theorem Statement.leadsTo_of_execute
    {statement : Statement}
    (simple : statement.isSimple = true)
    {state next : Execution}
    (left : (statement.execute 0 state).state? = some next) :
    state.output.LeadsTo next.output := by
  cases statement with
  | branch position condition thenBody elseBody =>
      cases simple
  | loop position condition body =>
      cases simple
  | bind position name value =>
      simp only [execute, executeBind] at left
      split at left
      all_goals
        cases left
        exact .nothing
  | assign position name value =>
      simp only [execute, executeAssign] at left
      split at left
      · cases left
        exact .nothing
      · split at left
        all_goals
          cases left
          exact .nothing
  | print position arguments =>
      simp only [execute, executePrint] at left
      split at left
      · cases left
        exact .nothing
      · next line _ =>
          rw [Execution.output_of_write left]
          exact .write .nothing line
  | evaluate expression =>
      simp only [execute, executeEvaluate] at left
      split at left
      all_goals
        cases left
        exact .nothing

/-- Whatever statements come to, all they do to the output is to write to it. -/
theorem Unrolls.leadsTo
    {block completed : List Statement}
    {state last : Execution}
    {ending : Ending}
    (unrolls : Unrolls block state completed ending last) :
    state.output.LeadsTo last.output := by
  induction unrolls with
  | reached state =>
      exact .nothing
  | completes simple executed later hypothesis =>
      have left := congrArg Outcome.state? executed
      exact (Statement.leadsTo_of_execute simple left).trans hypothesis
  | fails simple executed =>
      have left := congrArg Outcome.state? executed
      exact Statement.leadsTo_of_execute simple left
  | branchThen holds later hypothesis =>
      exact hypothesis
  | branchElse holds later hypothesis =>
      exact hypothesis
  | branchFails holds =>
      exact .nothing
  | loopAgain holds later hypothesis =>
      exact hypothesis
  | loopEnds holds later hypothesis =>
      exact hypothesis
  | loopFails holds =>
      exact .nothing

/-- All that a run does to the output is to write to it. -/
theorem Program.leadsTo_of_run
    {rounds : Nat}
    {program : Program}
    {state last : Execution}
    (finished : (program.run rounds state).state? = some last) :
    state.output.LeadsTo last.output := by
  rw [run_eq] at finished
  obtain ⟨completed, ending, unrolls, _⟩ :=
    Statement.exists_unrolls_of_executeBlock finished
  exact unrolls.leadsTo

end OwlScript
