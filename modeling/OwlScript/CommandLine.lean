import OwlScript.Batch
import OwlScript.CommandLine.Argument
import OwlScript.Shell.Dialogue
import OwlScript.Text.ControlSequence

namespace OwlScript

/-!
# Command lines

The two commands of the language as functions: from arguments, files and input
to an exit code and what is written.  The command `owl` runs one script, and
the command `owlsh` is the shell on its standard input.
-/

/-- An exit code, and what is written to the output and to the errors. -/
structure CommandResult where
  code : Nat
  output : ByteArray
  errors : ByteArray

namespace CommandResult

/-- A success that writes one text. -/
def success (text : String) : CommandResult :=
  ⟨0, text.toUTF8, ByteArray.empty⟩

end CommandResult

/-- The name and version of the commands. -/
def versionText : String :=
  "owl 0.1.0\n"

/-- The options that both commands have. -/
def optionsHelp : String :=
  "Options:\n" ++
    "  -h, --help     Print help\n" ++
    "  -V, --version  Print version\n"

/-- The help of the batch command. -/
def batchHelp : String :=
  "Run an Owl script once\n\n" ++
    "Usage: owl [ARGS]...\n\n" ++
    "Arguments:\n" ++
    "  [ARGS]...  Optional `-v`, `-vp`, `-vi` or `-vip` flag " ++
    "followed by the script path\n\n" ++
    optionsHelp

/-- The help of the shell command. -/
def shellHelp : String :=
  "Interactive Owl shell\n\n" ++
    "Usage: owlsh\n\n" ++
    optionsHelp

/-- How one of the commands presents itself. -/
structure CommandProfile where
  name : String
  /-- What stands for the arguments of its work in a usage line. -/
  operands : String
  help : String
  deriving Repr, DecidableEq

namespace CommandProfile

/-- The batch command. -/
def batch : CommandProfile :=
  ⟨"owl", " [ARGS]...", batchHelp⟩

/-- The shell command. -/
def shell : CommandProfile :=
  ⟨"owlsh", "", shellHelp⟩

/-- The usage line, with the request that it is about, if any. -/
def usageLine
    (profile : CommandProfile)
    (information : Option Information) :
    String :=
  let request :=
    match information with
    | some information => " " ++ information.option
    | none => ""
  "Usage: " ++ profile.name ++ request ++ profile.operands ++ "\n"

/-- What a command answers to a request for information. -/
def inform
    (profile : CommandProfile)
    (information : Information) :
    CommandResult :=
  match information with
  | .help => .success profile.help
  | .version => .success versionText

end CommandProfile

namespace ArgumentFault

/--
The fault in words.  What was typed is shown in its plain form, because it may
hold control sequences.
-/
def message : ArgumentFault → String
  | .unexpected argument _ =>
      "unexpected argument '" ++ Text.plain argument ++ "' found"
  | .unneededValue information value =>
      "unexpected value '" ++ Text.plain value ++ "' for '" ++
        information.option ++ "' found; no more were expected"

/-- The advice that follows the fault. -/
def advice : ArgumentFault → String
  | .unexpected _ (some nearest) =>
      "  tip: a similar argument exists: '" ++ nearest.option ++ "'\n\n"
  | _ => ""

/-- The complaint of a command about an argument. -/
def complaint
    (fault : ArgumentFault)
    (profile : CommandProfile) :
    CommandResult where
  code := 2
  output := ByteArray.empty
  errors :=
    ("error: " ++ fault.message ++ "\n\n" ++ fault.advice ++
      profile.usageLine fault.information? ++
      "\nFor more information, try '--help'.\n").toUTF8

end ArgumentFault

namespace CommandRequest

/-- What a command answers instead of its work, or else the arguments of it. -/
def answer
    (request : CommandRequest)
    (profile : CommandProfile) :
    Except CommandResult (List String) :=
  match request with
  | .inform information => .error (profile.inform information)
  | .refusal fault => .error (fault.complaint profile)
  | .work arguments => .ok arguments

end CommandRequest

/-- The arguments of a batch run, or what the batch command answers instead. -/
def batchArguments (arguments : List String) :
    Except CommandResult (List String) :=
  (CommandRequest.ofBatchArguments arguments).answer .batch

/-- The arguments of a dialogue, or what the shell command answers instead. -/
def shellArguments (arguments : List String) :
    Except CommandResult (List String) :=
  (CommandRequest.ofShellArguments arguments).answer .shell

/-- Runs one script the way the arguments say. -/
def runBatchCommand
    (rounds : Nat)
    (files : Files)
    (arguments : List String) :
    Option CommandResult :=
  match batchArguments arguments with
  | .error answer => some answer
  | .ok operands =>
      (Batch.carryOut rounds files (Invocation.ofArguments operands)
          Sink.unlimited Sink.unlimited).map fun result =>
        ⟨result.code, result.output.delivered,
          result.traceText.toUTF8 ++ result.errors.delivered⟩

/-- The warning about an input line that is no text. -/
def invalidInputWarning : String :=
  " WARN owl::shell: input stream failed " ++
    "err=stream did not contain valid UTF-8\n"

/-- The shell over an input, with prompts and replies in one output. -/
def converseOnce
    (rounds : Nat)
    (files : Files)
    (input : ByteArray) :
    Option CommandResult :=
  let dialogue : Dialogue :=
    ⟨defaultPrompt, none, Shell.fresh .literalSpace Sink.unlimited⟩
  (dialogue.converse rounds files input).map fun (ending, after) =>
    let warning :=
      match ending with
      | .invalidInput => invalidInputWarning
      | _ => ""
    ⟨0, after.shell.output.delivered, warning.toUTF8⟩

/-- Runs the shell, unless an argument asks for something else. -/
def runShellCommand
    (rounds : Nat)
    (files : Files)
    (arguments : List String)
    (input : ByteArray) :
    Option CommandResult :=
  match shellArguments arguments with
  | .error answer => some answer
  | .ok _ => converseOnce rounds files input

end OwlScript
