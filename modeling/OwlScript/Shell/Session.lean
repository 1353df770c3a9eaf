import OwlScript.Program.Outline
import OwlScript.Run.Execution
import OwlScript.Script
import OwlScript.Shell.Command

namespace OwlScript

/-!
# Shell sessions

A shell keeps the script loaded last and an interpreter.  Each command line
changes them or writes about them, and every failure is reported in the output
and leaves the shell ready for the next line.
-/

/-- Whether the shell goes on after a line. -/
inductive Flow where
  | proceed
  | quit
  deriving Repr, DecidableEq

/-- A shell: its rule for splitting lines, and what it holds. -/
structure Shell where
  rule : SplitRule
  script : Option Script
  interpreter : Interpreter
  output : Sink

/-- The menu of commands. -/
def helpText : String :=
  "OwlShell Interactive Interpreter\n" ++
    "--------------------------------\n" ++
    "  Command        Description\n" ++
    "  load <path>    load a .owl script into the shell.\n" ++
    "  run            execute the current script.\n" ++
    "  list tokens    display all tokens from the current script.\n" ++
    "  list ast       display the AST of the current script.\n" ++
    "  reset          return the shell to its initial state,\n" ++
    "                 unloading any script and clearing OwlVM memory.\n" ++
    "  spy memory     display memory usage in OwlVM.\n" ++
    "  help, ?        display this menu.\n" ++
    "  quit, exit     close the shell.\n"

namespace Shell

/-- A new shell. -/
def fresh (rule : SplitRule) (output : Sink) : Shell :=
  ⟨rule, none, Interpreter.fresh, output⟩

/-- The tokens of the loaded script; none without a script. -/
def tokens (shell : Shell) : List Token :=
  match shell.script with
  | some script => script.tokens
  | none => []

/-- The program of the loaded script. -/
def program? (shell : Shell) : Option Program :=
  shell.script.map Script.program

/-- The shell with something written, which fails if it does not fit. -/
def deliver : Shell → (Sink → Bool × Sink) → Outcome Shell
  | ⟨rule, script, interpreter, output⟩, writing =>
      match writing output with
      | (true, after) => .completed ⟨rule, script, interpreter, after⟩
      | (false, after) =>
          .failed .closedOutput ⟨rule, script, interpreter, after⟩

/-- The shell with a text written, which fails if it does not fit. -/
def write (shell : Shell) (text : String) : Outcome Shell :=
  shell.deliver (·.write text)

/-- The shell with the interpreter and the output as a run leaves them. -/
def afterRun
    (rule : SplitRule)
    (script : Option Script)
    (state : Execution) :
    Shell :=
  ⟨rule, script, state.interpreter, state.output⟩

/-- Runs the loaded script. -/
def runScript (rounds : Nat) : Shell → Outcome Shell
  | ⟨rule, script, interpreter, output⟩ =>
      match script with
      | none =>
          .failed .noScriptLoaded ⟨rule, script, interpreter, output⟩
      | some loaded =>
          match loaded.program.run rounds
              ⟨interpreter, output, RunTrace.start false⟩ with
          | .completed state => .completed (afterRun rule script state)
          | .failed failure state =>
              .failed failure (afterRun rule script state)
          | .unfinished => .unfinished

/-- Loads a file; if that fails, the script loaded before stays. -/
def load (files : Files) (path : String) (shell : Shell) : Outcome Shell :=
  match (Script.load files path).outcome with
  | .ok script => .completed { shell with script := some script }
  | .error failure => .failed failure shell

/-- Carries out one command. -/
def perform
    (rounds : Nat)
    (files : Files)
    (command : Command)
    (shell : Shell) :
    Outcome Shell :=
  match command with
  | .load path => shell.load files path
  | .run => shell.runScript rounds
  | .listTokens => shell.deliver (Token.writeListing shell.tokens)
  | .listTree =>
      match shell.program? with
      | some program => shell.deliver program.write
      | none => .completed shell
  | .reset =>
      .completed
        { shell with
          script := none
          interpreter := shell.interpreter.reset }
  | .spyMemory => shell.write (shell.interpreter.memory.text ++ "\n")
  | .help => shell.write helpText
  | .quit => .completed shell

/-- Whether the shell goes on after a command that succeeded. -/
def flowAfter : Command → Flow
  | .quit => .quit
  | _ => .proceed

/-- The line that reports a failure. -/
def reportLine (failure : Failure) : String :=
  match failure with
  | .unknownCommand _ => failure.message ++ "\n"
  | _ => "error: " ++ failure.message ++ "\n"

/-- The shell with a failure reported, as far as the output takes it. -/
def report (failure : Failure) (shell : Shell) : Shell :=
  { shell with output := (shell.output.write (reportLine failure)).2 }

/-- Carries out one line; there is no answer if a run does not finish. -/
def handleLine
    (rounds : Nat)
    (files : Files)
    (line : String)
    (shell : Shell) :
    Option (Flow × Shell) :=
  match Command.parse (shell.rule.split line) with
  | .error failure => some (.proceed, shell.report failure)
  | .ok none => some (.proceed, shell)
  | .ok (some command) =>
      match shell.perform rounds files command with
      | .completed after => some (flowAfter command, after)
      | .failed failure after => some (.proceed, after.report failure)
      | .unfinished => none

end Shell

end OwlScript
