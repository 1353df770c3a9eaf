import OwlScript.Proofs.Run.Unrolling

namespace OwlScript

/-!
# Runs as straight lines

A run that is unrolled and the run of its completed statements as a program of
their own end alike.  What fails at the end adds nothing.
-/

namespace Unrolls

variable {block completed : List Statement}
variable {state last : Execution}
variable {ending : Ending}

/-- What is completed and what fails are parts of the statements. -/
theorem within
    (unrolls : Unrolls block state completed ending last) :
    completed ⊆ Statement.blockSimpleStatements block ∧
      ending.IsWithin block := by
  -- Each step goes on with statements all parts of which were there before.
  have wider
      {inner block completed : List Statement}
      {ending : Ending}
      (parts : Statement.PartsWithin inner block)
      (narrow :
        completed ⊆ Statement.blockSimpleStatements inner ∧
          ending.IsWithin inner) :
      completed ⊆ Statement.blockSimpleStatements block ∧
        ending.IsWithin block :=
    ⟨List.Subset.trans narrow.1 parts.statements, narrow.2.mono parts⟩
  induction unrolls with
  | reached state =>
      exact ⟨List.nil_subset _, trivial⟩
  | @completes statement rest completed state next last ending simple executed
      later hypothesis =>
      have whole := wider (.behind statement rest) hypothesis
      refine ⟨List.cons_subset.2 ⟨?_, whole.1⟩, whole.2⟩
      simp [Statement.blockSimpleStatements,
        Statement.simpleStatements_of_isSimple simple]
  | @fails statement rest state last failure simple executed =>
      refine ⟨List.nil_subset _, ?_⟩
      simp [Ending.IsWithin, Statement.blockSimpleStatements,
        Statement.simpleStatements_of_isSimple simple]
  | branchThen holds later hypothesis =>
      exact wider (.whenTrue _) hypothesis
  | branchElse holds later hypothesis =>
      exact wider (.whenFalse _) hypothesis
  | branchFails holds =>
      refine ⟨List.nil_subset _, ?_⟩
      simp [Ending.IsWithin, Statement.blockExpressions,
        Statement.expressions]
  | loopAgain holds later hypothesis =>
      exact wider (.again _) hypothesis
  | loopEnds holds later hypothesis =>
      exact wider (.behind _ _) hypothesis
  | loopFails holds =>
      refine ⟨List.nil_subset _, ?_⟩
      simp [Ending.IsWithin, Statement.blockExpressions,
        Statement.expressions]

/-- What fails at the end leaves everything as it is. -/
theorem leavesAlone
    (unrolls : Unrolls block state completed ending last)
    (unlimited : state.output.room = none) :
    ending.LeavesAlone last := by
  induction unrolls with
  | reached state =>
      trivial
  | completes simple executed later hypothesis =>
      exact hypothesis (Statement.room_of_completed simple unlimited executed)
  | fails simple executed =>
      obtain ⟨rfl, isDiagnostic⟩ :=
        Statement.eq_of_failed simple unlimited executed
      exact ⟨executed, isDiagnostic⟩
  | branchThen holds later hypothesis =>
      exact hypothesis unlimited
  | branchElse holds later hypothesis =>
      exact hypothesis unlimited
  | branchFails holds =>
      exact holds
  | loopAgain holds later hypothesis =>
      exact hypothesis unlimited
  | loopEnds holds later hypothesis =>
      exact hypothesis unlimited
  | loopFails holds =>
      exact holds

/--
The statements completed on the way, executed one after the other, all
complete again and lead to the same last state.
-/
theorem executeBlock_completed
    (unrolls : Unrolls block state completed ending last)
    (unlimited : state.output.room = none)
    (rounds : Nat)
    {twin : Execution}
    (same : twin.untraced = state) :
    ∃ straight,
      Statement.executeBlock rounds completed twin = .completed straight ∧
        straight.untraced = last := by
  -- A branch or a loop decides something and leaves the state, so only the
  -- statements that complete move the twin on.
  induction unrolls generalizing twin with
  | reached state =>
      exact ⟨twin, rfl, same⟩
  | @completes statement rest completed state next last ending simple executed
      later hypothesis =>
      have stillUnlimited :=
        Statement.room_of_completed simple unlimited executed
      have untraced :=
        Statement.execute_untraced simple (twin.announce statement)
      have announced : (twin.announce statement).untraced = state := same
      rw [announced, executed] at untraced
      simp only [Statement.executeBlock,
        Statement.execute_of_isSimple simple rounds]
      cases twinExecuted :
          statement.execute 0 (twin.announce statement) with
      | completed twinNext =>
          rw [twinExecuted] at untraced
          cases untraced
          exact hypothesis stillUnlimited rfl
      | failed failure twinNext =>
          rw [twinExecuted] at untraced
          cases untraced
      | unfinished =>
          rw [twinExecuted] at untraced
          cases untraced
  | fails simple executed =>
      obtain ⟨rfl, _⟩ := Statement.eq_of_failed simple unlimited executed
      exact ⟨twin, rfl, same⟩
  | branchThen holds later hypothesis =>
      exact hypothesis unlimited same
  | branchElse holds later hypothesis =>
      exact hypothesis unlimited same
  | branchFails holds =>
      exact ⟨twin, rfl, same⟩
  | loopAgain holds later hypothesis =>
      exact hypothesis unlimited same
  | loopEnds holds later hypothesis =>
      exact hypothesis unlimited same
  | loopFails holds =>
      exact ⟨twin, rfl, same⟩

end Unrolls

namespace Program

variable {program : Program}
variable {start last : Execution}

/-- Runs that come to an end do so as their statements unroll. -/
theorem exists_unrolls_of_run
    {rounds : Nat}
    (unlimited : start.output.room = none)
    (finished : (program.run rounds start).state? = some last) :
    ∃ completed ending,
      Unrolls program.statements
          (start.counted program.statements.length).untraced completed ending
          last.untraced ∧
        program.run rounds start = ending.outcome last ∧
          ending.LeavesAlone last.untraced := by
  rw [run_eq] at finished ⊢
  obtain ⟨completed, ending, unrolls, outcome⟩ :=
    Statement.exists_unrolls_of_executeBlock finished
  exact ⟨completed, ending, unrolls, outcome, unrolls.leavesAlone unlimited⟩

/-- As long as the output takes everything, a run fails with a diagnostic. -/
theorem exists_diagnostic_of_run_failed
    {rounds : Nat}
    {failure : Failure}
    (unlimited : start.output.room = none)
    (failed : program.run rounds start = .failed failure last) :
    ∃ fault, failure = .diagnostic fault := by
  have finished : (program.run rounds start).state? = some last := by
    rw [failed]
    rfl
  obtain ⟨completed, ending, unrolls, outcome, alone⟩ :=
    exists_unrolls_of_run unlimited finished
  rw [failed] at outcome
  cases ending with
  | reached =>
      cases outcome
  | atStatement statement failure =>
      cases outcome
      exact alone.2
  | atCondition condition fault =>
      cases outcome
      exact ⟨fault, rfl⟩

/--
A run that comes to an end is the run of the statements that it completes, one
after the other.  These are simple statements of the program, and there is
only one way to unroll the program to them.  Executed as a program of their
own from the same start they all complete, and leave the same variables in the
same order, and the same output.  A statement or a condition that fails at the
end is none of them, so nothing of it is left.  Only the trace, which tells of
branches and loops as well, is looked away from.
-/
theorem run_eq_run_of_completed
    (rounds : Nat)
    (program : Program)
    {start last : Execution}
    (unlimited : start.output.room = none)
    (finished : (program.run rounds start).state? = some last) :
    ∃ completed ending,
      Unrolls program.statements
          (start.counted program.statements.length).untraced completed ending
          last.untraced ∧
        (∀ other otherEnding otherLast,
          Unrolls program.statements
              (start.counted program.statements.length).untraced other
              otherEnding otherLast →
            other = completed ∧ otherEnding = ending) ∧
        completed ⊆ program.simpleStatements ∧
        ending.IsWithin program.statements ∧
        program.run rounds start = ending.outcome last ∧
        ending.LeavesAlone last.untraced ∧
        ∀ few, ∃ straight,
          Program.run few ⟨completed⟩ start = .completed straight ∧
            straight.interpreter = last.interpreter ∧
              straight.output = last.output := by
  obtain ⟨completed, ending, unrolls, outcome, alone⟩ :=
    exists_unrolls_of_run unlimited finished
  refine ⟨completed, ending, unrolls, ?_, unrolls.within.1, unrolls.within.2,
    outcome, alone, ?_⟩
  · intro other otherEnding otherLast otherwise
    obtain ⟨sameCompleted, sameEnding, _⟩ := unrolls.unique otherwise
    exact ⟨sameCompleted, sameEnding⟩
  · intro few
    have counted :
        (start.counted completed.length).untraced =
          (start.counted program.statements.length).untraced :=
      rfl
    obtain ⟨straight, executed, same⟩ :=
      unrolls.executeBlock_completed unlimited few counted
    have sameInterpreter :
        straight.untraced.interpreter = last.untraced.interpreter :=
      congrArg Execution.interpreter same
    have sameOutput : straight.untraced.output = last.untraced.output :=
      congrArg Execution.output same
    exact ⟨straight, executed, sameInterpreter, sameOutput⟩

/-- Prints two variables and a sum, which overflows unless `j` is 0. -/
def printWithSum : Statement :=
  .print ⟨5, 5⟩
    [.reference ⟨5, 11⟩ "i", .reference ⟨5, 14⟩ "j",
      .binary (.arithmetic .add) (.literal ⟨5, 17⟩ (.int 9223372036854775807))
        (.reference ⟨5, 39⟩ "j")]

/-- Gives a variable the value of a literal. -/
def bindLiteral
    (line column : Nat)
    (name : String)
    (value : Int64) :
    Statement :=
  .bind ⟨line, column⟩ name (.literal ⟨line, column + 8⟩ (.int value))

/-- Adds 1 to a variable. -/
def increment (line column : Nat) (name : String) : Statement :=
  .assign ⟨line, column⟩ name
    (.binary (.arithmetic .add) (.reference ⟨line, column + 4⟩ name)
      (.literal ⟨line, column + 8⟩ (.int 1)))

/--
An inner loop whose `print` overflows in its third argument on the second
time around, after two arguments have their values.
-/
def overflowInSecondRound : Program :=
  ⟨[bindLiteral 1 1 "i" 1,
    .loop ⟨2, 1⟩
      (.binary (.order .less) (.reference ⟨2, 7⟩ "i")
        (.literal ⟨2, 11⟩ (.int 3)))
      [bindLiteral 3 3 "j" 0,
        .loop ⟨4, 3⟩
          (.binary (.order .less) (.reference ⟨4, 9⟩ "j")
            (.literal ⟨4, 13⟩ (.int 2)))
          [printWithSum, increment 6 5 "j"],
        increment 8 3 "i"]]⟩

/--
A run whose inner loop overflows in its second round leaves what the four
statements completed before it leave.
-/
theorem overflowInSecondRound_run_eq_run_of_completed :
    let start : Execution := ⟨.fresh, .unlimited, .start true⟩
    start.output.room = none ∧
      ∃ last,
        overflowInSecondRound.run 3 start =
            .failed
              (.diagnostic (RuntimeFault.integerOverflow.located ⟨5, 17⟩))
              last ∧
          ∀ few, ∃ straight,
            Program.run few
                ⟨[bindLiteral 1 1 "i" 1, bindLiteral 3 3 "j" 0, printWithSum,
                  increment 6 5 "j"]⟩
                start = .completed straight ∧
              straight.interpreter = last.interpreter ∧
                straight.output = last.output := by
  have finishes :
      (overflowInSecondRound.run 3
        ⟨.fresh, .unlimited, .start true⟩).state?.isSome = true := by
    decide +kernel
  obtain ⟨last, finished⟩ := Option.isSome_iff_exists.1 finishes
  obtain ⟨completed, ending, _, onlyOne, _, _, outcome, _, straightened⟩ :=
    run_eq_run_of_completed 3 overflowInSecondRound rfl finished
  obtain ⟨rfl, rfl⟩ :=
    onlyOne
      [bindLiteral 1 1 "i" 1, bindLiteral 3 3 "j" 0, printWithSum,
        increment 6 5 "j"]
      (.atStatement printWithSum
        (.diagnostic (RuntimeFault.integerOverflow.located ⟨5, 17⟩)))
      _
      (.completes rfl rfl (.loopAgain rfl (.completes rfl rfl
        (.loopAgain rfl (.completes rfl rfl (.completes rfl rfl
          (.loopAgain rfl (.fails rfl rfl))))))))
  exact ⟨rfl, last, outcome, straightened⟩

end Program

end OwlScript
