import OwlScript.Diagnostic
import OwlScript.Text.Blank
import OwlScript.Text.Pieces

namespace OwlScript

/-!
# Shell commands

A command line is split into words, and the words make a command.  Only the
first two words count.
-/

/-- How a command line is split into words. -/
inductive SplitRule where
  /-- At every single space, so that spaces in a row leave empty words. -/
  | literalSpace
  /-- At runs of spaces. -/
  | spaceRuns
  /-- At runs of blank characters of any kind. -/
  | whitespace
  deriving Repr, DecidableEq

namespace SplitRule

/-- The words between separating characters, some of them perhaps empty. -/
def wordsBetween (separates : Char → Bool) (line : String) : List String :=
  (Text.splitAt separates line.toList).map String.ofList

/-- The words of a line. -/
def split (rule : SplitRule) (line : String) : List String :=
  match rule with
  | .literalSpace => wordsBetween (· == ' ') line
  | .spaceRuns => (wordsBetween (· == ' ') line).filter (!·.isEmpty)
  | .whitespace => (wordsBetween Text.isBlank line).filter (!·.isEmpty)

end SplitRule

/-- What the shell can be told to do. -/
inductive Command where
  | load (path : String)
  | run
  | listTokens
  | listTree
  | reset
  | spyMemory
  | help
  | quit
  deriving Repr, DecidableEq

namespace Command

/-- The word behind the first one, if there is one that is not empty. -/
def argument? (words : List String) : Option String :=
  words[1]?.filter (!·.isEmpty)

/-- The command that a first word and an argument make. -/
def ofVerb (verb : String) (argument : Option String) :
    Except Failure Command :=
  match verb with
  | "load" =>
      match argument with
      | some path => .ok (.load path)
      | none => .error (.usage "load" "load <path>")
  | "run" => .ok .run
  | "list" =>
      match argument with
      | some "tokens" => .ok .listTokens
      | some "ast" => .ok .listTree
      | _ => .error (.usage "list" "list tokens | list ast")
  | "reset" => .ok .reset
  | "spy" =>
      match argument with
      | some "memory" => .ok .spyMemory
      | _ => .error (.usage "spy" "spy memory")
  | "help" => .ok .help
  | "?" => .ok .help
  | "quit" => .ok .quit
  | "exit" => .ok .quit
  | other => .error (.unknownCommand other)

/--
The command that words make.  Words that are all empty make none, and no
failure either.
-/
def parse (words : List String) : Except Failure (Option Command) :=
  if words.all String.isEmpty then
    .ok none
  else
    (ofVerb (words.headD "") (argument? words)).map some

end Command

end OwlScript
