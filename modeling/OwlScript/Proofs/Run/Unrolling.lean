import OwlScript.Proofs.Run.Simulation

namespace OwlScript

/-!
# Unrolling

A run goes through branches and loops, but all it does is done by the simple
statements that it completes.  Unrolling says which they are: the statements
still to be done form a list, a branch is replaced by the body it takes, and
the body of a loop is put in front of the loop as long as the condition holds.
Whatever statements come to, they can be unrolled to that, and in one way only.
-/

/-- What comes of an outcome when its state is looked at in another way. -/
def Outcome.map
    {State Other : Type}
    (view : State → Other) :
    Outcome State → Outcome Other
  | .completed state => .completed (view state)
  | .failed failure state => .failed failure (view state)
  | .unfinished => .unfinished

/-- The execution without its trace. -/
def Execution.untraced (execution : Execution) : Execution :=
  { execution with trace := RunTrace.start false }

/-- How statements that are unrolled come to an end. -/
inductive Ending where
  /-- Nothing is left to be done. -/
  | reached
  | atStatement (statement : Statement) (failure : Failure)
  | atCondition (condition : Expression) (fault : Diagnostic)

namespace Ending

/-- The outcome of a run that comes to this end in a state. -/
def outcome (ending : Ending) (state : Execution) : Outcome Execution :=
  match ending with
  | .reached => .completed state
  | .atStatement _ failure => .failed failure state
  | .atCondition _ fault => .failed (.diagnostic fault) state

/-- What fails at the end does so with a diagnostic, and leaves the state. -/
def LeavesAlone (ending : Ending) (state : Execution) : Prop :=
  match ending with
  | .reached => True
  | .atStatement statement failure =>
      statement.execute 0 state = .failed failure state ∧
        ∃ fault, failure = .diagnostic fault
  | .atCondition condition fault => state.holds condition = .error fault

/-- What fails at the end is a part of some statements. -/
def IsWithin (ending : Ending) (block : List Statement) : Prop :=
  match ending with
  | .reached => True
  | .atStatement statement _ =>
      statement ∈ Statement.blockSimpleStatements block
  | .atCondition condition _ => condition ∈ Statement.blockExpressions block

/-- What ends within a part of a block ends within the block. -/
theorem IsWithin.mono
    {ending : Ending}
    {inner block : List Statement}
    (isWithin : ending.IsWithin inner)
    (parts : Statement.PartsWithin inner block) :
    ending.IsWithin block := by
  cases ending with
  | reached =>
      trivial
  | atStatement statement failure =>
      exact parts.statements isWithin
  | atCondition condition fault =>
      exact parts.expressions isWithin

end Ending

/--
The statements still to be done lead from a state to an end in a last state,
and these are the simple statements completed on the way, in order.
-/
inductive Unrolls :
    List Statement → Execution → List Statement → Ending → Execution → Prop
  where
  | reached
      (state : Execution) :
      Unrolls [] state [] .reached state
  | completes
      {statement : Statement}
      {rest completed : List Statement}
      {state next last : Execution}
      {ending : Ending}
      (simple : statement.isSimple = true)
      (executed : statement.execute 0 state = .completed next)
      (later : Unrolls rest next completed ending last) :
      Unrolls (statement :: rest) state (statement :: completed) ending last
  | fails
      {statement : Statement}
      {rest : List Statement}
      {state last : Execution}
      {failure : Failure}
      (simple : statement.isSimple = true)
      (executed : statement.execute 0 state = .failed failure last) :
      Unrolls (statement :: rest) state [] (.atStatement statement failure)
        last
  | branchThen
      {position : Position}
      {condition : Expression}
      {thenBody : List Statement}
      {elseBody : Option (List Statement)}
      {rest completed : List Statement}
      {state last : Execution}
      {ending : Ending}
      (holds : state.holds condition = .ok true)
      (later : Unrolls (thenBody ++ rest) state completed ending last) :
      Unrolls (.branch position condition thenBody elseBody :: rest) state
        completed ending last
  | branchElse
      {position : Position}
      {condition : Expression}
      {thenBody : List Statement}
      {elseBody : Option (List Statement)}
      {rest completed : List Statement}
      {state last : Execution}
      {ending : Ending}
      (holds : state.holds condition = .ok false)
      (later : Unrolls (elseBody.getD [] ++ rest) state completed ending last) :
      Unrolls (.branch position condition thenBody elseBody :: rest) state
        completed ending last
  | branchFails
      {position : Position}
      {condition : Expression}
      {thenBody : List Statement}
      {elseBody : Option (List Statement)}
      {rest : List Statement}
      {state : Execution}
      {fault : Diagnostic}
      (holds : state.holds condition = .error fault) :
      Unrolls (.branch position condition thenBody elseBody :: rest) state
        [] (.atCondition condition fault) state
  | loopAgain
      {position : Position}
      {condition : Expression}
      {body rest completed : List Statement}
      {state last : Execution}
      {ending : Ending}
      (holds : state.holds condition = .ok true)
      (later :
        Unrolls (body ++ .loop position condition body :: rest) state
          completed ending last) :
      Unrolls (.loop position condition body :: rest) state completed ending
        last
  | loopEnds
      {position : Position}
      {condition : Expression}
      {body rest completed : List Statement}
      {state last : Execution}
      {ending : Ending}
      (holds : state.holds condition = .ok false)
      (later : Unrolls rest state completed ending last) :
      Unrolls (.loop position condition body :: rest) state completed ending
        last
  | loopFails
      {position : Position}
      {condition : Expression}
      {body rest : List Statement}
      {state : Execution}
      {fault : Diagnostic}
      (holds : state.holds condition = .error fault) :
      Unrolls (.loop position condition body :: rest) state []
        (.atCondition condition fault) state

namespace Statement

variable {statement : Statement}

/-- A simple statement needs no rounds. -/
theorem execute_of_isSimple
    (simple : statement.isSimple = true)
    (rounds : Nat)
    (state : Execution) :
    statement.execute rounds state = statement.execute 0 state := by
  cases statement with
  | branch position condition thenBody elseBody =>
      cases simple
  | loop position condition body =>
      cases simple
  | _ =>
      simp only [execute]

/-- A simple statement does the same whether its run is traced or not. -/
theorem execute_untraced
    (simple : statement.isSimple = true)
    (state : Execution) :
    statement.execute 0 state.untraced =
      (statement.execute 0 state).map Execution.untraced := by
  have sameGlobals : state.untraced.globals = state.globals := rfl
  cases statement with
  | branch position condition thenBody elseBody =>
      cases simple
  | loop position condition body =>
      cases simple
  | bind position name value =>
      simp only [execute, executeBind, sameGlobals]
      cases value.evaluate state.globals with
      | error fault =>
          rfl
      | ok stored =>
          rfl
  | assign position name value =>
      simp only [execute, executeAssign, sameGlobals]
      cases value.evaluate state.globals with
      | error fault =>
          rfl
      | ok stored =>
          cases state.globals.contains name with
          | true =>
              rfl
          | false =>
              rfl
  | print position arguments =>
      simp only [execute, executePrint, sameGlobals]
      cases printedLine state.globals arguments with
      | error fault =>
          rfl
      | ok line =>
          rcases state with ⟨interpreter, output, trace⟩
          simp only [Execution.untraced, Execution.write, Execution.deliver]
          rcases output.write line with ⟨written, after⟩
          cases written with
          | true =>
              rfl
          | false =>
              rfl
  | evaluate expression =>
      simp only [execute, executeEvaluate, sameGlobals]
      cases expression.evaluate state.globals with
      | error fault =>
          rfl
      | ok stored =>
          rfl

/--
A simple statement is completed, or fails with a diagnostic and leaves the
state, as long as the output takes everything.
-/
theorem execute_of_unlimited
    (simple : statement.isSimple = true)
    {state : Execution}
    (unlimited : state.output.room = none) :
    (∃ next, statement.execute 0 state = .completed next ∧
      next.output.room = none) ∨
    ∃ fault, statement.execute 0 state = .failed (.diagnostic fault) state := by
  cases statement with
  | branch position condition thenBody elseBody =>
      cases simple
  | loop position condition body =>
      cases simple
  | bind position name value =>
      simp only [execute, executeBind]
      cases value.evaluate state.globals with
      | error fault =>
          exact .inr ⟨fault, rfl⟩
      | ok stored =>
          exact .inl ⟨_, rfl, unlimited⟩
  | assign position name value =>
      simp only [execute, executeAssign]
      cases value.evaluate state.globals with
      | error fault =>
          exact .inr ⟨fault, rfl⟩
      | ok stored =>
          cases state.globals.contains name with
          | true =>
              exact .inl ⟨_, rfl, unlimited⟩
          | false =>
              exact .inr ⟨_, rfl⟩
  | print position arguments =>
      simp only [execute, executePrint]
      cases printedLine state.globals arguments with
      | error fault =>
          exact .inr ⟨fault, rfl⟩
      | ok line =>
          rcases state with ⟨interpreter, output, trace⟩
          simp only [Execution.write, Execution.deliver,
            Sink.write_of_unlimited unlimited]
          exact .inl ⟨_, rfl, rfl⟩
  | evaluate expression =>
      simp only [execute, executeEvaluate]
      cases expression.evaluate state.globals with
      | error fault =>
          exact .inr ⟨fault, rfl⟩
      | ok stored =>
          exact .inl ⟨_, rfl, unlimited⟩

/-- A simple statement does not limit an output that was unlimited. -/
theorem room_of_completed
    (simple : statement.isSimple = true)
    {state next : Execution}
    (unlimited : state.output.room = none)
    (executed : statement.execute 0 state = .completed next) :
    next.output.room = none := by
  rcases execute_of_unlimited simple unlimited with
    ⟨after, alsoExecuted, stillUnlimited⟩ | ⟨fault, failed⟩
  · rw [executed] at alsoExecuted
    cases alsoExecuted
    exact stillUnlimited
  · rw [executed] at failed
    cases failed

/-- A simple statement that fails changes nothing. -/
theorem eq_of_failed
    (simple : statement.isSimple = true)
    {state last : Execution}
    {failure : Failure}
    (unlimited : state.output.room = none)
    (executed : statement.execute 0 state = .failed failure last) :
    last = state ∧ ∃ fault, failure = .diagnostic fault := by
  rcases execute_of_unlimited simple unlimited with
    ⟨after, completed, stillUnlimited⟩ | ⟨fault, alsoExecuted⟩
  · rw [executed] at completed
    cases completed
  · rw [executed] at alsoExecuted
    cases alsoExecuted
    exact ⟨rfl, fault, rfl⟩

end Statement

/--
Whatever the outcome of some statements is, the statements can be unrolled to
it, with anything behind them still to be done.
-/
def Unrollable
    (front : List Statement)
    (state : Execution) :
    Outcome Execution → Prop
  | .completed next =>
      ∀ ⦃rest completed ending last⦄,
        Unrolls rest next.untraced completed ending last →
          ∃ before,
            Unrolls (front ++ rest) state.untraced (before ++ completed)
              ending last
  | .failed failure last =>
      ∀ rest, ∃ completed ending,
        Unrolls (front ++ rest) state.untraced completed ending
            last.untraced ∧
          ending.outcome last = .failed failure last
  | .unfinished => True

namespace Unrollable

variable {front back : List Statement}
variable {state next : Execution}
variable {outcome : Outcome Execution}

/-- No statements are unrolled to no steps. -/
theorem nothing (state : Execution) : Unrollable [] state (.completed state) :=
  fun _ _ _ _ unrolls => ⟨[], unrolls⟩

/-- Statements in a row can be unrolled one after the other. -/
theorem trans
    (first : Unrollable front state (.completed next))
    (second : Unrollable back next outcome) :
    Unrollable (front ++ back) state outcome := by
  cases outcome with
  | completed last =>
      intro rest completed ending final unrolls
      obtain ⟨middle, later⟩ := second unrolls
      obtain ⟨before, whole⟩ := first later
      refine ⟨before ++ middle, ?_⟩
      simpa using whole
  | failed failure last =>
      intro rest
      obtain ⟨completed, ending, later, failed⟩ := second rest
      obtain ⟨before, whole⟩ := first later
      refine ⟨before ++ completed, ending, ?_, failed⟩
      simpa using whole
  | unfinished =>
      trivial

/-- Behind statements that fail, anything can stand. -/
theorem failed_append
    {failure : Failure}
    {last : Execution}
    (first : Unrollable front state (.failed failure last))
    (back : List Statement) :
    Unrollable (front ++ back) state (.failed failure last) := by
  intro rest
  simpa using first (back ++ rest)

/-- Statements that are unrolled to others are unrolled to what these are. -/
theorem of_step
    (step :
      ∀ {rest completed ending last},
        Unrolls (back ++ rest) state.untraced completed ending last →
          Unrolls (front ++ rest) state.untraced completed ending last)
    (unrollable : Unrollable back state outcome) :
    Unrollable front state outcome := by
  cases outcome with
  | completed last =>
      intro rest completed ending final unrolls
      obtain ⟨before, whole⟩ := unrollable unrolls
      exact ⟨before, step whole⟩
  | failed failure last =>
      intro rest
      obtain ⟨completed, ending, whole, failed⟩ := unrollable rest
      exact ⟨completed, ending, step whole, failed⟩
  | unfinished =>
      trivial

/-- A simple statement can be unrolled to itself. -/
theorem of_isSimple
    {statement : Statement}
    (simple : statement.isSimple = true)
    (rounds : Nat)
    (state : Execution) :
    Unrollable [statement] state (statement.execute rounds state) := by
  have untraced := Statement.execute_untraced simple state
  rw [Statement.execute_of_isSimple simple]
  cases executed : statement.execute 0 state with
  | completed next =>
      rw [executed] at untraced
      intro rest completed ending last unrolls
      exact ⟨[statement], .completes simple untraced unrolls⟩
  | failed failure last =>
      rw [executed] at untraced
      intro rest
      exact ⟨[], .atStatement statement failure, .fails simple untraced, rfl⟩
  | unfinished =>
      trivial

/-- A condition that cannot be decided ends the unrolling. -/
theorem atCondition
    {condition : Expression}
    {fault : Diagnostic}
    (fails :
      ∀ rest,
        Unrolls (front ++ rest) state.untraced []
          (.atCondition condition fault) state.untraced) :
    Unrollable front state (.failed (.diagnostic fault) state) :=
  fun rest => ⟨[], .atCondition condition fault, fails rest, rfl⟩

/-- A branch is unrolled to the body that it takes. -/
theorem branch
    {thenBody : List Statement}
    {elseBody : Option (List Statement)}
    {thenOutcome elseOutcome : Outcome Execution}
    (thenUnrollable : Unrollable thenBody state thenOutcome)
    (elseUnrollable : Unrollable (elseBody.getD []) state elseOutcome)
    (position : Position)
    (condition : Expression) :
    Unrollable [.branch position condition thenBody elseBody] state
      (match state.holds condition with
      | .error fault => .failed (.diagnostic fault) state
      | .ok true => thenOutcome
      | .ok false => elseOutcome) := by
  cases holds : state.holds condition with
  | error fault =>
      exact .atCondition fun rest => .branchFails holds
  | ok truth =>
      cases truth with
      | true =>
          exact thenUnrollable.of_step fun unrolls => .branchThen holds unrolls
      | false =>
          exact elseUnrollable.of_step fun unrolls => .branchElse holds unrolls

/-- A loop is unrolled one round after the other. -/
theorem repeatWhile
    {body : List Statement}
    {executeBody : Execution → Outcome Execution}
    (bodyUnrollable :
      ∀ state, Unrollable body state (executeBody state))
    (position : Position)
    (condition : Expression)
    (rounds : Nat)
    (state : Execution) :
    Unrollable [.loop position condition body] state
      (OwlScript.repeatWhile (fun current => current.holds condition)
        executeBody rounds state) := by
  induction rounds generalizing state with
  | zero =>
      trivial
  | succ rounds hypothesis =>
      simp only [OwlScript.repeatWhile]
      cases holds : state.holds condition with
      | error fault =>
          exact .atCondition fun rest => .loopFails holds
      | ok truth =>
          cases truth with
          | false =>
              have ended := nothing state
              exact ended.of_step fun unrolls => .loopEnds holds unrolls
          | true =>
              have once := bodyUnrollable state
              have again :
                  Unrollable (body ++ [.loop position condition body]) state
                    (match executeBody state with
                    | .completed after =>
                        OwlScript.repeatWhile
                          (fun current => current.holds condition)
                          executeBody rounds after
                    | .failed failure after => .failed failure after
                    | .unfinished => .unfinished) := by
                cases executed : executeBody state with
                | completed after =>
                    rw [executed] at once
                    exact once.trans (hypothesis after)
                | failed failure after =>
                    rw [executed] at once
                    exact once.failed_append _
                | unfinished =>
                    trivial
              refine again.of_step fun unrolls => .loopAgain holds ?_
              simpa using unrolls

end Unrollable

namespace Statement

mutual

/-- Whatever a statement comes to, it can be unrolled to that. -/
theorem unrollable_execute
    (rounds : Nat) :
    (statement : Statement) → (state : Execution) →
      Unrollable [statement] state (execute rounds statement state)
  | .bind .., state => .of_isSimple rfl rounds state
  | .assign .., state => .of_isSimple rfl rounds state
  | .print .., state => .of_isSimple rfl rounds state
  | .branch _ _ thenBody none, state => by
      simp only [execute]
      apply Unrollable.branch
      · exact unrollable_executeBlock rounds thenBody state
      · exact Unrollable.nothing state
  | .branch _ _ thenBody (some body), state => by
      simp only [execute]
      apply Unrollable.branch
      · exact unrollable_executeBlock rounds thenBody state
      · exact unrollable_executeBlock rounds body state
  | .loop position condition body, state =>
      .repeatWhile (unrollable_executeBlock rounds body) position condition
        rounds state
  | .evaluate _, state => .of_isSimple rfl rounds state

/-- Whatever the statements of a block come to, they can be unrolled to that. -/
theorem unrollable_executeBlock
    (rounds : Nat) :
    (block : List Statement) → (state : Execution) →
      Unrollable block state (executeBlock rounds block state)
  | [], state => Unrollable.nothing state
  | statement :: rest, state => by
      have first :=
        unrollable_execute rounds statement (state.announce statement)
      simp only [executeBlock]
      cases executed : execute rounds statement (state.announce statement) with
      | completed after =>
          rw [executed] at first
          exact first.trans (unrollable_executeBlock rounds rest after)
      | failed failure after =>
          rw [executed] at first
          exact first.failed_append rest
      | unfinished =>
          trivial

end

/-- Statements that come to an end can be unrolled to it. -/
theorem exists_unrolls_of_executeBlock
    {rounds : Nat}
    {block : List Statement}
    {state last : Execution}
    (finished : (executeBlock rounds block state).state? = some last) :
    ∃ completed ending,
      Unrolls block state.untraced completed ending last.untraced ∧
        executeBlock rounds block state = ending.outcome last := by
  have unrollable := unrollable_executeBlock rounds block state
  cases executed : executeBlock rounds block state with
  | completed next =>
      rw [executed] at unrollable finished
      cases finished
      obtain ⟨completed, unrolls⟩ := unrollable (.reached last.untraced)
      exact ⟨completed, .reached, by simpa using unrolls, rfl⟩
  | failed failure next =>
      rw [executed] at unrollable finished
      cases finished
      obtain ⟨completed, ending, unrolls, failed⟩ := unrollable []
      exact ⟨completed, ending, by simpa using unrolls, failed.symm⟩
  | unfinished =>
      rw [executed] at finished
      cases finished

end Statement

namespace Unrolls

variable {block completed : List Statement}
variable {state last : Execution}
variable {ending : Ending}

/-- Statements can be unrolled in one way only. -/
theorem unique
    (unrolls : Unrolls block state completed ending last)
    {other : List Statement}
    {otherEnding : Ending}
    {otherLast : Execution}
    (otherwise : Unrolls block state other otherEnding otherLast) :
    other = completed ∧ otherEnding = ending ∧ otherLast = last := by
  -- The first statement and its outcome tell which rule applies, so the other
  -- unrolling begins with the same one.
  induction unrolls generalizing other otherEnding otherLast with
  | reached state =>
      cases otherwise
      exact ⟨rfl, rfl, rfl⟩
  | completes simple executed later hypothesis =>
      cases otherwise with
      | completes _ alsoExecuted alsoLater =>
          rw [executed] at alsoExecuted
          cases alsoExecuted
          obtain ⟨rfl, rfl, rfl⟩ := hypothesis alsoLater
          exact ⟨rfl, rfl, rfl⟩
      | _ =>
          simp_all [Statement.isSimple]
  | branchThen holds later hypothesis =>
      cases otherwise with
      | branchThen _ alsoLater =>
          exact hypothesis alsoLater
      | _ =>
          simp_all [Statement.isSimple]
  | branchElse holds later hypothesis =>
      cases otherwise with
      | branchElse _ alsoLater =>
          exact hypothesis alsoLater
      | _ =>
          simp_all [Statement.isSimple]
  | loopAgain holds later hypothesis =>
      cases otherwise with
      | loopAgain _ alsoLater =>
          exact hypothesis alsoLater
      | _ =>
          simp_all [Statement.isSimple]
  | loopEnds holds later hypothesis =>
      cases otherwise with
      | loopEnds _ alsoLater =>
          exact hypothesis alsoLater
      | _ =>
          simp_all [Statement.isSimple]
  | _ =>
      cases otherwise <;> simp_all [Statement.isSimple]

end Unrolls

end OwlScript
