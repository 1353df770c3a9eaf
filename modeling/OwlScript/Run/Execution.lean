import OwlScript.Run.Evaluation
import OwlScript.Run.Memory
import OwlScript.Run.Sink
import OwlScript.Trace

namespace OwlScript

/-!
# Execution

Executing a statement changes variables and writes to a sink.  What a
statement has done stays done if a later one fails.  A loop may go on for
ever, so execution is given a number of rounds that each loop may take; an
execution that would need more is unfinished.
-/

/-- What an interpreter keeps from one run to the next. -/
structure Interpreter where
  globals : Globals
  runs : Nat
  deriving DecidableEq

namespace Interpreter

/-- A new interpreter. -/
def fresh : Interpreter :=
  ⟨Globals.empty, 0⟩

/-- The interpreter with everything forgotten. -/
def reset (_interpreter : Interpreter) : Interpreter :=
  fresh

/-- The report on what the interpreter holds. -/
def memory (interpreter : Interpreter) : MemoryReport :=
  .of interpreter.globals interpreter.runs

/-- The value of a variable. -/
def global? (interpreter : Interpreter) (name : String) : Option Value :=
  (interpreter.globals.get? name).map Stored.value

end Interpreter

/-- The events of a run, kept only if asked for. -/
structure RunTrace where
  wanted : Bool
  events : Array RunEvent

namespace RunTrace

/-- A trace before the first event. -/
def start (wanted : Bool) : RunTrace :=
  ⟨wanted, #[]⟩

/-- The trace with one more event. -/
def record (trace : RunTrace) (event : RunEvent) : RunTrace :=
  if trace.wanted then
    { trace with events := trace.events.push event }
  else
    trace

end RunTrace

/-- How something that may go on for ever comes out. -/
inductive Outcome (State : Type) where
  | completed (state : State)
  | failed (failure : Failure) (state : State)
  /-- A loop would need more rounds than it was given. -/
  | unfinished

/-- The state of a run: the interpreter, its output, and the trace. -/
structure Execution where
  interpreter : Interpreter
  output : Sink
  trace : RunTrace

namespace Execution

/-- The variables. -/
def globals (execution : Execution) : Globals :=
  execution.interpreter.globals

/-- The execution with a variable bound to a value. -/
def insert
    (execution : Execution)
    (name : String)
    (stored : Stored) :
    Execution :=
  { execution with
    interpreter :=
      { execution.interpreter with
        globals := execution.globals.insert name stored } }

/-- The execution with one more event. -/
def record (execution : Execution) (event : RunEvent) : Execution :=
  { execution with trace := execution.trace.record event }

/-- The execution with the event that a statement begins. -/
def announce (execution : Execution) (statement : Statement) : Execution :=
  execution.record (.execute statement.form statement.position)

/-- Whether a condition holds. -/
def holds
    (execution : Execution)
    (condition : Expression) :
    Except Diagnostic Bool :=
  (condition.evaluate execution.globals).map fun stored =>
    stored.value.isTruthy

end Execution

namespace Execution

/-- The execution with something written, which fails if it does not fit. -/
def deliver : Execution → (Sink → Bool × Sink) → Outcome Execution
  | ⟨interpreter, output, trace⟩, writing =>
      match writing output with
      | (true, after) => .completed ⟨interpreter, after, trace⟩
      | (false, after) => .failed .closedOutput ⟨interpreter, after, trace⟩

/-- The execution with a text written, which fails if it does not fit. -/
def write (execution : Execution) (text : String) : Outcome Execution :=
  execution.deliver (·.write text)

end Execution

/--
Repeats a body as long as a condition holds, in at most the given rounds.  The
condition is looked at once more than the body is executed.
-/
def repeatWhile
    (condition : Execution → Except Diagnostic Bool)
    (body : Execution → Outcome Execution) :
    Nat → Execution → Outcome Execution
  | 0, _ => .unfinished
  | rounds + 1, state =>
      match condition state with
      | .error fault => .failed (.diagnostic fault) state
      | .ok false => .completed state
      | .ok true =>
          match body state with
          | .completed after => repeatWhile condition body rounds after
          | .failed failure after => .failed failure after
          | .unfinished => .unfinished

namespace Statement

/-- Binds a variable to the value of an expression. -/
def executeBind
    (name : String)
    (value : Expression)
    (state : Execution) :
    Outcome Execution :=
  match value.evaluate state.globals with
  | .error fault => .failed (.diagnostic fault) state
  | .ok stored =>
      .completed ((state.record (.bind name stored.value)).insert name stored)

/-- Gives a variable that is bound already the value of an expression. -/
def executeAssign
    (position : Position)
    (name : String)
    (value : Expression)
    (state : Execution) :
    Outcome Execution :=
  match value.evaluate state.globals with
  | .error fault => .failed (.diagnostic fault) state
  | .ok stored =>
      if state.globals.contains name then
        .completed (state.insert name stored)
      else
        .failed
          (.diagnostic ((RuntimeFault.undefinedTarget name).located position))
          state

/-- The values of all arguments with spaces between them, and a line feed. -/
def printedLine
    (globals : Globals)
    (arguments : List Expression) :
    Except Diagnostic String := do
  let values ← arguments.mapM (Expression.evaluate globals)
  return " ".intercalate (values.map fun stored => stored.value.text) ++ "\n"

/-- Writes the values of all arguments as one line. -/
def executePrint
    (arguments : List Expression)
    (state : Execution) :
    Outcome Execution :=
  match printedLine state.globals arguments with
  | .error fault => .failed (.diagnostic fault) state
  | .ok line => state.write line

/-- Evaluates an expression for its faults only. -/
def executeEvaluate
    (expression : Expression)
    (state : Execution) :
    Outcome Execution :=
  match expression.evaluate state.globals with
  | .error fault => .failed (.diagnostic fault) state
  | .ok _ => .completed state

mutual

/-- Executes one statement; each loop in it may take the given rounds. -/
def execute (rounds : Nat) : Statement → Execution → Outcome Execution
  | .bind _ name value, state => executeBind name value state
  | .assign position name value, state =>
      executeAssign position name value state
  | .print _ arguments, state => executePrint arguments state
  | .branch _ condition thenBody elseBody, state =>
      match state.holds condition with
      | .error fault => .failed (.diagnostic fault) state
      | .ok true => executeBlock rounds thenBody state
      | .ok false =>
          match elseBody with
          | none => .completed state
          | some body => executeBlock rounds body state
  | .loop _ condition body, state =>
      repeatWhile (fun current => current.holds condition)
        (executeBlock rounds body) rounds state
  | .evaluate expression, state => executeEvaluate expression state

/-- Announces and executes statements in order up to the first that fails. -/
def executeBlock (rounds : Nat) :
    List Statement → Execution → Outcome Execution
  | [], state => .completed state
  | statement :: rest, state =>
      match execute rounds statement (state.announce statement) with
      | .completed after => executeBlock rounds rest after
      | .failed failure after => .failed failure after
      | .unfinished => .unfinished

end

end Statement

/-- More rounds than a loop can take in any lifetime. -/
def unboundedRounds : Nat :=
  0x4000000000000000

namespace Program

/-- Runs a program; every run counts, whether it fails or not. -/
def run
    (rounds : Nat)
    (program : Program)
    (state : Execution) :
    Outcome Execution :=
  let runs := state.interpreter.runs + 1
  let counted :=
    { state with interpreter := { state.interpreter with runs := runs } }
  Statement.executeBlock rounds program.statements
    (counted.record (.begin runs program.statements.length))

end Program

end OwlScript
