import OwlScript.Shell.Session

namespace OwlScript

/-!
# Dialogues

A dialogue feeds a shell with the lines of an input, and shows a prompt before
it reads each of them.  It ends when a line quits the shell, when the input is
at its end, or before a line that is no text.
-/

/-- Why a dialogue is over. -/
inductive DialogueEnd where
  | quit
  | endOfInput
  | invalidInput
  deriving Repr, DecidableEq

/--
A shell in a dialogue.  Prompts go to a sink of their own or, if there is
none, to the output of the shell.
-/
structure Dialogue where
  prompt : String
  prompts : Option Sink
  shell : Shell

/-- The prompt of a shell that is not given another. -/
def defaultPrompt : String :=
  "owl> "

namespace Dialogue

/-- The dialogue with a prompt shown, as far as it can be written. -/
def showPrompt (dialogue : Dialogue) : Dialogue :=
  match dialogue with
  | ⟨prompt, some prompts, shell⟩ =>
      ⟨prompt, some (prompts.write prompt).2, shell⟩
  | ⟨prompt, none, ⟨rule, script, interpreter, output⟩⟩ =>
      ⟨prompt, none, ⟨rule, script, interpreter, (output.write prompt).2⟩⟩

/-- The lines of an input as bytes, each with its line feed if it has one. -/
def inputLines (input : ByteArray) : List (List UInt8) :=
  Text.cutAfter (· == 10) input.toList

/-- Whether a character belongs to the ending of an input line. -/
def endsLine (character : Char) : Bool :=
  character == '\n' || character == '\r'

/-- The text of an input line without its ending, if the bytes are valid. -/
def lineText? (bytes : List UInt8) : Option String :=
  (String.fromUTF8? ⟨bytes.toArray⟩).map fun text =>
    String.ofList (text.toList.reverse.dropWhile endsLine).reverse

/-- Carries out lines until the dialogue ends, unless a run does not finish. -/
def handleLines
    (rounds : Nat)
    (files : Files) :
    List (List UInt8) → Dialogue → Option (DialogueEnd × Dialogue)
  | [], dialogue => some (.endOfInput, dialogue.showPrompt)
  | bytes :: rest, dialogue =>
      let ⟨prompt, prompts, shell⟩ := dialogue.showPrompt
      match lineText? bytes with
      | none => some (.invalidInput, ⟨prompt, prompts, shell⟩)
      | some line =>
          match shell.handleLine rounds files line with
          | none => none
          | some (.quit, after) => some (.quit, ⟨prompt, prompts, after⟩)
          | some (.proceed, after) =>
              handleLines rounds files rest ⟨prompt, prompts, after⟩

/-- Carries out the lines of an input. -/
def converse
    (rounds : Nat)
    (files : Files)
    (input : ByteArray)
    (dialogue : Dialogue) :
    Option (DialogueEnd × Dialogue) :=
  dialogue.handleLines rounds files (inputLines input)

end Dialogue

end OwlScript
