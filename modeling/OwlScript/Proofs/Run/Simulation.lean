import OwlScript.Proofs.Except
import OwlScript.Proofs.Program.Displacement
import OwlScript.Run.Execution

namespace OwlScript

/-!
# Runs side by side

Two executions of the same statements are followed side by side.  What one
statement needs of a relation between them is little: conditions and values
come out alike, and binding, assigning and writing keep the relation.  Then
every run keeps it, whatever loops and branches it goes through.

The statements of one side may stand in another place.  Then the runs come out
alike up to the place of a diagnostic.
-/

namespace Outcome

variable {State : Type}

/-- The state that an outcome leaves, whether it failed or not. -/
def state? : Outcome State → Option State
  | .completed state => some state
  | .failed _ state => some state
  | .unfinished => none

/-- The outcome with its failure, if there is one, changed. -/
def mapFailure
    (change : Failure → Failure) :
    Outcome State → Outcome State
  | .completed state => .completed state
  | .failed failure state => .failed (change failure) state
  | .unfinished => .unfinished

/-- Outcomes of the same kind, with the same failure and with states that are
related. -/
inductive Related
    (relation : State → State → Prop) :
    Outcome State → Outcome State → Prop where
  | completed
      {state other : State}
      (related : relation state other) :
      Related relation (.completed state) (.completed other)
  | failed
      (failure : Failure)
      {state other : State}
      (related : relation state other) :
      Related relation (.failed failure state) (.failed failure other)
  | unfinished :
      Related relation .unfinished .unfinished

/-- An outcome whose failure is moved nowhere stays as it is. -/
@[simp]
theorem mapFailure_moved_id (outcome : Outcome State) :
    outcome.mapFailure (Failure.moved id) = outcome := by
  cases outcome <;> simp [mapFailure]

/-- Writing fails for want of room only, and that has no position. -/
@[simp]
theorem mapFailure_moved_write
    (move : Position → Position)
    (execution : Execution)
    (text : String) :
    (execution.write text).mapFailure (Failure.moved move) =
      execution.write text := by
  rcases execution with ⟨interpreter, output, trace⟩
  simp only [Execution.write, Execution.deliver]
  rcases output.write text with ⟨fits, after⟩
  cases fits with
  | true =>
      rfl
  | false =>
      rfl

/-- Related outcomes leave related states. -/
theorem Related.exists_state?
    {relation : State → State → Prop}
    {outcome otherOutcome : Outcome State}
    {state : State}
    (related : outcome.Related relation otherOutcome)
    (left : outcome.state? = some state) :
    ∃ other, otherOutcome.state? = some other ∧ relation state other := by
  cases related with
  | completed related =>
      cases left
      exact ⟨_, rfl, related⟩
  | failed failure related =>
      cases left
      exact ⟨_, rfl, related⟩
  | unfinished =>
      cases left

/-- If one of two related outcomes is finished, the other one is. -/
theorem Related.exists_of_state?
    {relation : State → State → Prop}
    {outcome otherOutcome : Outcome State}
    {other : State}
    (related : outcome.Related relation otherOutcome)
    (left : otherOutcome.state? = some other) :
    ∃ state, outcome.state? = some state ∧ relation state other := by
  cases related with
  | completed related =>
      cases left
      exact ⟨_, rfl, related⟩
  | failed failure related =>
      cases left
      exact ⟨_, rfl, related⟩
  | unfinished =>
      cases left

end Outcome

/-- The same text written to equal outputs comes out alike. -/
theorem Execution.write_related
    {relation : Execution → Execution → Prop}
    {state other : Execution}
    (sameOutput : state.output = other.output)
    (keeps :
      ∀ after : Sink,
        relation { state with output := after } { other with output := after })
    (text : String) :
    (state.write text).Related relation (other.write text) := by
  rcases state with ⟨interpreter, output, trace⟩
  rcases other with ⟨otherInterpreter, otherOutput, otherTrace⟩
  simp only at sameOutput
  simp only [Execution.write, Execution.deliver, sameOutput]
  rcases otherOutput.write text with ⟨written, after⟩
  cases written with
  | true =>
      exact .completed (keeps after)
  | false =>
      exact .failed _ (keeps after)

section Displacement

variable {ε δ α β : Type}

variable (move : Position → Position)

namespace Expression

/--
A fault of a moved expression is placed where the expression was moved to.
-/
theorem placed_moved
    (expression : Expression)
    (result : Except RuntimeFault α) :
    (expression.moved move).placed result =
      (expression.placed result).mapError (Diagnostic.moved move) := by
  cases result with
  | error fault =>
      simp only [placed, position_moved]
      rfl
  | ok value =>
      rfl

/-- A displaced expression has the same value, or a displaced fault. -/
theorem evaluate_moved (globals : Globals) (expression : Expression) :
    (expression.moved move).evaluate globals =
      (expression.evaluate globals).mapError (Diagnostic.moved move) := by
  induction expression with
  | literal position value =>
      rfl
  | reference position name =>
      simp only [moved, evaluate]
      cases globals.get? name with
      | none =>
          rfl
      | some stored =>
          rfl
  | group position inner hypothesis =>
      simpa only [moved, evaluate] using hypothesis
  | unary position operator operand hypothesis =>
      have placed :=
        placed_moved (α := Value) move (.unary position operator operand)
      cases operator with
      | not =>
          simp only [moved, evaluate, hypothesis, Except.mapError_bind,
            Except.mapError_pure]
      | negate =>
          simp only [moved] at placed
          simp only [moved, evaluate, hypothesis, placed, Except.mapError_bind,
            Except.mapError_pure]
  | binary operator left right leftHypothesis rightHypothesis =>
      cases operator with
      | arithmetic operator =>
          simp only [moved, evaluate, leftHypothesis, rightHypothesis,
            placed_moved, Except.mapError_bind]
      | order operator =>
          simp only [moved, evaluate, leftHypothesis, rightHypothesis,
            placed_moved, Except.mapError_bind, Except.mapError_pure]
      | _ =>
          simp only [moved, evaluate, leftHypothesis, rightHypothesis,
            Except.mapError_bind, Except.mapError_pure,
            apply_ite (Except.mapError _)]

end Expression

end Displacement

/--
What every step of some statements needs of a relation, where these are the
simple statements and the expressions in them.
-/
structure Simulation
    (statements : List Statement)
    (expressions : List Expression)
    (relation : Execution → Execution → Prop) : Prop where
  record
    {state other : Execution}
    (related : relation state other)
    (event otherEvent : RunEvent) :
    relation (state.record event) (other.record otherEvent)
  evaluate
    {state other : Execution}
    (related : relation state other)
    {expression : Expression}
    (occurs : expression ∈ expressions) :
    expression.evaluate state.globals = expression.evaluate other.globals
  contains
    {state other : Execution}
    (related : relation state other)
    {position : Position}
    {name : String}
    {value : Expression}
    (occurs : .assign position name value ∈ statements) :
    state.globals.contains name = other.globals.contains name
  bind
    {state other : Execution}
    (related : relation state other)
    {position : Position}
    {name : String}
    {value : Expression}
    (occurs : .bind position name value ∈ statements)
    (stored : Stored) :
    relation (state.insert name stored) (other.insert name stored)
  assign
    {state other : Execution}
    (related : relation state other)
    {position : Position}
    {name : String}
    {value : Expression}
    (occurs : .assign position name value ∈ statements)
    (bound : state.globals.contains name = true)
    (otherBound : other.globals.contains name = true)
    (stored : Stored) :
    relation (state.insert name stored) (other.insert name stored)
  write
    {state other : Execution}
    (related : relation state other)
    (text : String) :
    (state.write text).Related relation (other.write text)

namespace Simulation

variable {statements : List Statement}
variable {expressions : List Expression}
variable {relation : Execution → Execution → Prop}
variable {state other : Execution}
variable (move : Position → Position)

/-- A displaced expression comes out alike on the other side. -/
theorem evaluate_moved
    (simulation : Simulation statements expressions relation)
    (related : relation state other)
    {expression : Expression}
    (occurs : expression ∈ expressions) :
    (expression.moved move).evaluate state.globals =
      (expression.evaluate other.globals).mapError (Diagnostic.moved move) := by
  rw [Expression.evaluate_moved, simulation.evaluate related occurs]

/-- A moved condition is decided alike, up to the place of its fault. -/
theorem holds_moved
    (simulation : Simulation statements expressions relation)
    (related : relation state other)
    {condition : Expression}
    (occurs : condition ∈ expressions) :
    state.holds (condition.moved move) =
      (other.holds condition).mapError (Diagnostic.moved move) := by
  simp only [Execution.holds, simulation.evaluate_moved move related occurs]
  cases condition.evaluate other.globals <;> rfl

/-- Moved arguments print the same line, up to the place of their fault. -/
theorem printedLine_moved
    (simulation : Simulation statements expressions relation)
    (related : relation state other)
    {arguments : List Expression}
    (occur : arguments ⊆ expressions) :
    Statement.printedLine state.globals
        (arguments.map (Expression.moved move)) =
      (Statement.printedLine other.globals arguments).mapError
        (Diagnostic.moved move) := by
  have values :
      (arguments.map (Expression.moved move)).mapM
          (Expression.evaluate state.globals) =
        (arguments.mapM (Expression.evaluate other.globals)).mapError
          (Diagnostic.moved move) := by
    induction arguments with
    | nil =>
        rfl
    | cons argument arguments hypothesis =>
        obtain ⟨occurs, occur⟩ := List.cons_subset.1 occur
        simp only [List.map_cons, List.mapM_cons, Except.mapError_bind,
          Except.mapError_pure,
          simulation.evaluate_moved move related occurs, hypothesis occur]
  simp only [Statement.printedLine, values, Except.mapError_bind,
    Except.mapError_pure]

/-- A moved `let` statement does the same, up to the place of its fault. -/
theorem executeBind_moved
    (simulation : Simulation statements expressions relation)
    (related : relation state other)
    {position : Position}
    {name : String}
    {value : Expression}
    (occurs : .bind position name value ∈ statements)
    (valueOccurs : value ∈ expressions) :
    (Statement.executeBind name (value.moved move) state).Related relation
      ((Statement.executeBind name value other).mapFailure
        (Failure.moved move)) := by
  simp only [Statement.executeBind,
    simulation.evaluate_moved move related valueOccurs]
  cases value.evaluate other.globals with
  | error fault =>
      exact .failed _ related
  | ok stored =>
      exact .completed
        (simulation.bind (simulation.record related _ _) occurs stored)

/-- A moved assignment does the same, up to the place of its fault. -/
theorem executeAssign_moved
    (simulation : Simulation statements expressions relation)
    (related : relation state other)
    {position : Position}
    {name : String}
    {value : Expression}
    (occurs : .assign position name value ∈ statements)
    (valueOccurs : value ∈ expressions) :
    (Statement.executeAssign (move position) name (value.moved move)
        state).Related relation
      ((Statement.executeAssign position name value other).mapFailure
        (Failure.moved move)) := by
  simp only [Statement.executeAssign,
    simulation.evaluate_moved move related valueOccurs]
  cases value.evaluate other.globals with
  | error fault =>
      exact .failed _ related
  | ok stored =>
      have contains := simulation.contains related occurs
      cases otherBound : other.globals.contains name with
      | false =>
          simp only [Except.mapError_ok, contains, otherBound]
          exact .failed _ related
      | true =>
          rw [otherBound] at contains
          simp only [Except.mapError_ok, contains, if_true]
          exact .completed
            (simulation.assign related occurs contains otherBound stored)

/-- A moved `print` statement does the same, up to the place of its fault. -/
theorem executePrint_moved
    (simulation : Simulation statements expressions relation)
    (related : relation state other)
    {arguments : List Expression}
    (occur : arguments ⊆ expressions) :
    (Statement.executePrint (arguments.map (Expression.moved move))
        state).Related relation
      ((Statement.executePrint arguments other).mapFailure
        (Failure.moved move)) := by
  simp only [Statement.executePrint,
    simulation.printedLine_moved move related occur]
  cases Statement.printedLine other.globals arguments with
  | error fault =>
      exact .failed _ related
  | ok line =>
      simp only [Except.mapError_ok, Outcome.mapFailure_moved_write]
      exact simulation.write related line

/--
A moved expression does the same as a statement, up to the place of its fault.
-/
theorem executeEvaluate_moved
    (simulation : Simulation statements expressions relation)
    (related : relation state other)
    {expression : Expression}
    (occurs : expression ∈ expressions) :
    (Statement.executeEvaluate (expression.moved move) state).Related relation
      ((Statement.executeEvaluate expression other).mapFailure
        (Failure.moved move)) := by
  simp only [Statement.executeEvaluate,
    simulation.evaluate_moved move related occurs]
  cases expression.evaluate other.globals with
  | error fault =>
      exact .failed _ related
  | ok stored =>
      exact .completed related

/-- A loop keeps what its condition and its body keep. -/
theorem repeatWhile_moved
    {condition otherCondition : Execution → Except Diagnostic Bool}
    {body otherBody : Execution → Outcome Execution}
    (conditionRelated :
      ∀ {state other : Execution}, relation state other →
        condition state =
          (otherCondition other).mapError (Diagnostic.moved move))
    (bodyRelated :
      ∀ {state other : Execution}, relation state other →
        (body state).Related relation
          ((otherBody other).mapFailure (Failure.moved move)))
    (rounds : Nat)
    (related : relation state other) :
    (repeatWhile condition body rounds state).Related relation
      ((repeatWhile otherCondition otherBody rounds other).mapFailure
        (Failure.moved move)) := by
  induction rounds generalizing state other with
  | zero =>
      exact .unfinished
  | succ rounds hypothesis =>
      simp only [repeatWhile, conditionRelated related]
      cases otherCondition other with
      | error fault =>
          exact .failed _ related
      | ok truth =>
          cases truth with
          | false =>
              exact .completed related
          | true =>
              have once := bodyRelated related
              simp only [Except.mapError_ok]
              generalize body state = outcome at once ⊢
              generalize otherBody other = otherOutcome at once ⊢
              cases otherOutcome with
              | completed otherAfter =>
                  cases once with
                  | completed relatedAfter =>
                      exact hypothesis relatedAfter
              | failed failure otherAfter =>
                  cases once with
                  | failed _ relatedAfter =>
                      exact .failed _ relatedAfter
              | unfinished =>
                  cases once with
                  | unfinished =>
                      exact .unfinished

mutual

/-- A statement and the displaced one keep the executions side by side. -/
theorem execute_moved
    (simulation : Simulation statements expressions relation)
    (rounds : Nat) :
    (statement : Statement) →
      statement.simpleStatements ⊆ statements →
      statement.expressions ⊆ expressions →
      ∀ {state other : Execution}, relation state other →
        ((statement.moved move).execute rounds state).Related relation
          ((statement.execute rounds other).mapFailure (Failure.moved move))
  | .bind .., occur, expressionsOccur, _, _, related =>
      simulation.executeBind_moved move related (List.cons_subset.1 occur).1
        (List.cons_subset.1 expressionsOccur).1
  | .assign .., occur, expressionsOccur, _, _, related =>
      simulation.executeAssign_moved move related
        (List.cons_subset.1 occur).1
        (List.cons_subset.1 expressionsOccur).1
  | .print .., _, expressionsOccur, _, _, related =>
      simulation.executePrint_moved move related expressionsOccur
  | .branch _ condition thenBody none, occur, expressionsOccur, state, other,
      related => by
      obtain ⟨thenOccur, _⟩ := List.append_subset.1 occur
      obtain ⟨conditionOccurs, bodiesOccur⟩ :=
        List.cons_subset.1 expressionsOccur
      obtain ⟨thenExpressionsOccur, _⟩ := List.append_subset.1 bodiesOccur
      simp only [Statement.moved, Statement.execute,
        simulation.holds_moved move related conditionOccurs]
      cases other.holds condition with
      | error fault =>
          exact .failed _ related
      | ok truth =>
          cases truth with
          | true =>
              exact executeBlock_moved simulation rounds thenBody thenOccur
                thenExpressionsOccur related
          | false =>
              exact .completed related
  | .branch _ condition thenBody (some body), occur, expressionsOccur, state,
      other, related => by
      obtain ⟨thenOccur, elseOccur⟩ := List.append_subset.1 occur
      obtain ⟨conditionOccurs, bodiesOccur⟩ :=
        List.cons_subset.1 expressionsOccur
      obtain ⟨thenExpressionsOccur, elseExpressionsOccur⟩ :=
        List.append_subset.1 bodiesOccur
      simp only [Statement.moved, Statement.execute,
        simulation.holds_moved move related conditionOccurs]
      cases other.holds condition with
      | error fault =>
          exact .failed _ related
      | ok truth =>
          cases truth with
          | true =>
              exact executeBlock_moved simulation rounds thenBody thenOccur
                thenExpressionsOccur related
          | false =>
              exact executeBlock_moved simulation rounds body elseOccur
                elseExpressionsOccur related
  | .loop _ condition body, occur, expressionsOccur, _, _, related => by
      obtain ⟨conditionOccurs, bodyOccurs⟩ :=
        List.cons_subset.1 expressionsOccur
      apply repeatWhile_moved move _ _ rounds related
      · intro state other related
        exact simulation.holds_moved move related conditionOccurs
      · intro state other related
        exact executeBlock_moved simulation rounds body occur bodyOccurs
          related
  | .evaluate _, _, expressionsOccur, _, _, related =>
      simulation.executeEvaluate_moved move related
        (List.cons_subset.1 expressionsOccur).1

/-- A block and the displaced one keep the executions side by side. -/
theorem executeBlock_moved
    (simulation : Simulation statements expressions relation)
    (rounds : Nat) :
    (block : List Statement) →
      Statement.blockSimpleStatements block ⊆ statements →
      Statement.blockExpressions block ⊆ expressions →
      ∀ {state other : Execution}, relation state other →
        (Statement.executeBlock rounds (Statement.blockMoved move block)
            state).Related relation
          ((Statement.executeBlock rounds block other).mapFailure
            (Failure.moved move))
  | [], _, _, _, _, related => .completed related
  | statement :: rest, occur, expressionsOccur, state, other, related => by
      obtain ⟨firstOccur, restOccur⟩ := List.append_subset.1 occur
      obtain ⟨firstExpressionsOccur, restExpressionsOccur⟩ :=
        List.append_subset.1 expressionsOccur
      have announced :
          relation (state.announce (statement.moved move))
            (other.announce statement) :=
        simulation.record related _ _
      have first :=
        execute_moved simulation rounds statement firstOccur
          firstExpressionsOccur announced
      simp only [Statement.blockMoved, Statement.executeBlock]
      generalize Statement.execute rounds (statement.moved move)
        (state.announce (statement.moved move)) = outcome at first ⊢
      generalize Statement.execute rounds statement
        (other.announce statement) = otherOutcome at first ⊢
      cases otherOutcome with
      | completed otherAfter =>
          cases first with
          | completed relatedAfter =>
              exact executeBlock_moved simulation rounds rest restOccur
                restExpressionsOccur relatedAfter
      | failed failure otherAfter =>
          cases first with
          | failed _ relatedAfter =>
              exact .failed _ relatedAfter
      | unfinished =>
          cases first with
          | unfinished =>
              exact .unfinished

end

/-- The same block keeps the executions side by side. -/
theorem executeBlock
    (simulation : Simulation statements expressions relation)
    (rounds : Nat)
    {block : List Statement}
    (occur : Statement.blockSimpleStatements block ⊆ statements)
    (expressionsOccur : Statement.blockExpressions block ⊆ expressions)
    (related : relation state other) :
    (Statement.executeBlock rounds block state).Related relation
      (Statement.executeBlock rounds block other) := by
  have displaced :=
    simulation.executeBlock_moved id rounds block occur expressionsOccur
      related
  rwa [Statement.blockMoved_id, Outcome.mapFailure_moved_id] at displaced

end Simulation

/-- The execution at the beginning of a run, which counts from here on. -/
def Execution.counted
    (execution : Execution)
    (statements : Nat) :
    Execution :=
  let runs := execution.interpreter.runs + 1
  { execution with
    interpreter := { execution.interpreter with runs := runs }
    trace := execution.trace.record (.begin runs statements) }

namespace Program

/-- A run counts the statements of the program and executes them as a block. -/
theorem run_eq
    (rounds : Nat)
    (program : Program)
    (state : Execution) :
    program.run rounds state =
      Statement.executeBlock rounds program.statements
        (state.counted program.statements.length) :=
  rfl

/-- A run keeps what every step of the program keeps. -/
theorem run_related
    {program : Program}
    {relation : Execution → Execution → Prop}
    (simulation :
      Simulation program.simpleStatements program.expressions relation)
    (rounds : Nat)
    {state other : Execution}
    (related :
      relation (state.counted program.statements.length)
        (other.counted program.statements.length)) :
    (program.run rounds state).Related relation (program.run rounds other) :=
  simulation.executeBlock rounds (List.Subset.refl _) (List.Subset.refl _)
    related

end Program

end OwlScript
