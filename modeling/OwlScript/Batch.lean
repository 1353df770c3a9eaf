import OwlScript.Program.Outline
import OwlScript.Run.Execution
import OwlScript.Script

namespace OwlScript

/-!
# Batch runs

A batch run loads one script and runs it once.  A flag makes it show the
tokens and the outline first, and asks for the traces of parsing and running.
-/

/-- What a batch run reports besides the output of the script. -/
structure Verbosity where
  showPipeline : Bool
  traceParser : Bool
  traceInterpreter : Bool
  deriving Repr, DecidableEq

namespace Verbosity

/-- Nothing besides the output of the script. -/
def quiet : Verbosity :=
  ⟨false, false, false⟩

/-- Whether nothing besides the output of the script is reported. -/
def isQuiet (verbosity : Verbosity) : Bool :=
  verbosity == quiet

/--
What a flag asks for.  It begins with `-v`, and of the letters behind that only
`p` and `i` count.
-/
def ofFlag? (flag : String) : Option Verbosity :=
  match flag.toList with
  | '-' :: 'v' :: letters =>
      some ⟨true, letters.contains 'p', letters.contains 'i'⟩
  | _ => none

/-- The directives of the filter for traces; none if nothing is reported. -/
def filterDirectives (verbosity : Verbosity) : Option String :=
  if verbosity.isQuiet then
    none
  else
    some
      ("warn" ++
        (if verbosity.traceParser then ",owl::parser=trace" else "") ++
        (if verbosity.traceInterpreter then
          ",owl::interpreter=trace"
        else
          ""))

end Verbosity

/-- What arguments ask for. -/
inductive Invocation where
  | usage
  | missingPath (flag : String)
  | run (path : String) (verbosity : Verbosity)
  deriving Repr, DecidableEq

namespace Invocation

/--
What arguments ask for: a flag and a path, or a path.  The rest is ignored.
-/
def ofArguments : List String → Invocation
  | [] => .usage
  | first :: rest =>
      match Verbosity.ofFlag? first, rest with
      | some verbosity, path :: _ => .run path verbosity
      | some _, [] => .missingPath first
      | none, _ => .run first Verbosity.quiet

end Invocation

/-- The usage of the batch command. -/
def usageText : String :=
  "[ Owl v0.1.0 ]\n" ++
    "Usage:\n" ++
    "      owl <options> <filename>\n" ++
    "Optional Flags:\n" ++
    "       -v   display tokens and generated AST\n" ++
    "       -vp  include trace of parse step\n" ++
    "       -vi  show trace of interpreter\n" ++
    "       -vip show all of the above\n"

/-- What a batch run leaves: an exit code, both outputs, and the trace. -/
structure BatchResult where
  code : Nat
  output : Sink
  errors : Sink
  trace : Array TraceEvent
  /-- The interpreter as the run left it, if a script was loaded. -/
  interpreter : Interpreter

namespace BatchResult

/-- The trace as text, one line an event. -/
def traceText (result : BatchResult) : String :=
  String.join (result.trace.toList.map TraceEvent.line)

end BatchResult

namespace Batch

/-- Writes the tokens and the outline of a script, each under a heading. -/
def writePipeline (script : Script) (sink : Sink) : Bool × Sink :=
  sink.write "== tokens ==\n"
    |> Sink.andThen (Token.writeListing script.tokens)
    |> Sink.andThen (·.write "== ast ==\n")
    |> Sink.andThen script.program.write
    |> Sink.andThen (·.write "== output ==\n")

/-- Shows a loaded script if asked to, and runs it. -/
def runLoaded
    (rounds : Nat)
    (script : Script)
    (verbosity : Verbosity)
    (state : Execution) :
    Outcome Execution :=
  if verbosity.showPipeline then
    match state.deliver (writePipeline script) with
    | .completed shown => script.program.run rounds shown
    | .failed failure shown => .failed failure shown
    | .unfinished => .unfinished
  else
    script.program.run rounds state

/-- The events that a verbosity asks for, those of the parser first. -/
def wantedEvents
    (verbosity : Verbosity)
    (parsing : Array ParseEvent)
    (running : Array RunEvent) :
    Array TraceEvent :=
  (if verbosity.traceParser then parsing.map TraceEvent.parse else #[]) ++
    (if verbosity.traceInterpreter then running.map TraceEvent.run else #[])

/-- The exit code of a failure, and 1 instead if it could not be reported. -/
def reported (code : Nat) (written : Bool) : Nat :=
  if written then code else 1

/-- The line that reports a failure. -/
def reportLine (failure : Failure) : String :=
  "error: " ++ failure.message ++ "\n"

/-- Writes a failure to the errors, for exit code 1. -/
def fail
    (failure : Failure)
    (output errors : Sink)
    (trace : Array TraceEvent)
    (interpreter : Interpreter) :
    BatchResult :=
  ⟨1, output, (errors.write (reportLine failure)).2, trace, interpreter⟩

/-- Loads and runs the script under a path. -/
def runPath
    (rounds : Nat)
    (files : Files)
    (path : String)
    (verbosity : Verbosity)
    (output errors : Sink) :
    Option BatchResult :=
  let loading := Script.load files path
  match loading.outcome with
  | .error failure =>
      some (fail failure output errors
        (wantedEvents verbosity loading.events #[]) Interpreter.fresh)
  | .ok script =>
      match runLoaded rounds script verbosity
          ⟨Interpreter.fresh, output,
            RunTrace.start verbosity.traceInterpreter⟩ with
      | .completed state =>
          some ⟨0, state.output, errors,
            wantedEvents verbosity loading.events state.trace.events,
            state.interpreter⟩
      | .failed failure state =>
          some (fail failure state.output errors
            (wantedEvents verbosity loading.events state.trace.events)
            state.interpreter)
      | .unfinished => none

/--
Carries out what arguments ask for on a new interpreter; there is no result if
a run does not finish.
-/
def carryOut
    (rounds : Nat)
    (files : Files)
    (invocation : Invocation)
    (output errors : Sink) :
    Option BatchResult :=
  match invocation with
  | .usage =>
      let (written, after) := output.write usageText
      some ⟨reported 0 written, after, errors, #[], Interpreter.fresh⟩
  | .missingPath flag =>
      let (written, after) :=
        errors.write ("error: `" ++ flag ++ "` needs a script path\n")
          |> Sink.andThen (·.write usageText)
      some ⟨reported 2 written, output, after, #[], Interpreter.fresh⟩
  | .run path verbosity => runPath rounds files path verbosity output errors

end Batch

end OwlScript
