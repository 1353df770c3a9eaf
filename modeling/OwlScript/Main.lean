import OwlScript.CommandLine

/-!
# The executable

One executable serves both commands: under the name `owlsh` it is the shell,
and under any other name the batch command.  It reads the one file that a
command asks for, hands over to the library, and writes what comes back.
-/

namespace OwlScript.Main

/-- The content of a file, if it can be read. -/
def content? (path : String) : IO (Option ByteArray) := do
  try
    return some (← IO.FS.readBinFile path)
  catch _ =>
    return none

/-- The files as far as a command needs them: those among the paths. -/
def filesAmong (paths : List String) : IO Files := do
  let contents ← paths.mapM fun path => return (path, ← content? path)
  return fun path => (contents.lookup path).join

/-- Writes both outputs and gives the exit code. -/
def finish (result : Option CommandResult) : IO UInt32 := do
  match result with
  | some result =>
      (← IO.getStdout).write result.output
      (← IO.getStderr).write result.errors
      return result.code.toUInt32
  | none => return 1

/-- The path that the arguments of the batch command ask for. -/
def batchPaths (arguments : List String) : List String :=
  match batchArguments arguments with
  | .error _ => []
  | .ok operands =>
      match Invocation.ofArguments operands with
      | .run path _ => [path]
      | _ => []

/-- The path that a line of the shell asks for. -/
def linePaths (line : String) : List String :=
  match Command.parse (SplitRule.literalSpace.split line) with
  | .ok (some (.load path)) => [path]
  | _ => []

/-- Writes what the shell has in its output, and empties it. -/
def flushOutput (shell : Shell) : IO Shell := do
  let output ← IO.getStdout
  output.write shell.output.delivered
  output.flush
  return { shell with output := Sink.unlimited }

/-- The bytes of the next line with its line feed, or what is left. -/
partial def readLineBytes (input : IO.FS.Stream) (line : ByteArray) :
    IO ByteArray := do
  let next ← input.read 1
  let longer := line ++ next
  if next.isEmpty || next.toList == [10] then
    return longer
  else
    readLineBytes input longer

/-- Reads and carries out lines one by one until the dialogue ends. -/
partial def serveLines (dialogue : Dialogue) : IO UInt32 := do
  let prompted := dialogue.showPrompt
  let shell ← flushOutput prompted.shell
  let line ← readLineBytes (← IO.getStdin) ByteArray.empty
  if line.isEmpty then
    return 0
  match Dialogue.lineText? line.toList with
  | none =>
      IO.eprint invalidInputWarning
      return 0
  | some text =>
      let files ← filesAmong (linePaths text)
      match shell.handleLine unboundedRounds files text with
      | none => return 1
      | some (flow, after) =>
          let next ← flushOutput after
          match flow with
          | .quit => return 0
          | .proceed => serveLines { prompted with shell := next }

/-- The shell on standard input, unless an argument asks for something else. -/
def shellMain (arguments : List String) : IO UInt32 := do
  match shellArguments arguments with
  | .error answer => finish (some answer)
  | .ok _ =>
      serveLines
        ⟨defaultPrompt, none, Shell.fresh .literalSpace Sink.unlimited⟩

/-- The batch command. -/
def batchMain (arguments : List String) : IO UInt32 := do
  let files ← filesAmong (batchPaths arguments)
  finish (runBatchCommand unboundedRounds files arguments)

end OwlScript.Main

/-- The command whose name the executable has. -/
def main (arguments : List String) : IO UInt32 := do
  if (← IO.appPath).fileName == some "owlsh" then
    OwlScript.Main.shellMain arguments
  else
    OwlScript.Main.batchMain arguments
