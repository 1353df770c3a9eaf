import OwlScript.Position

namespace OwlScript

/-!
# Diagnostics and failures

A diagnostic is what one stage of the language reports about a script.  A
failure is anything that can stop a request: a diagnostic, a file that cannot
be read, a misused command, or an output that accepts no more text.  Each has
one written form.
-/

/-- The stage of the language that found a fault. -/
inductive Stage where
  | lexer
  | parser
  | runtime
  deriving Repr, DecidableEq

namespace Stage

/-- The word that opens every diagnostic of the stage. -/
def name : Stage → String
  | .lexer => "Lexer"
  | .parser => "Parser"
  | .runtime => "Runtime"

end Stage

/-- A fault of a script, with the place it points at and any remarks. -/
structure Diagnostic where
  stage : Stage
  message : String
  position : Option Position
  notes : List String
  deriving Repr, DecidableEq

namespace Diagnostic

/-- A diagnostic at a known place, without remarks. -/
def located
    (stage : Stage)
    (message : String)
    (position : Position) :
    Diagnostic :=
  ⟨stage, message, some position, []⟩

/-- The diagnostic with one more remark at the end. -/
def withNote (note : String) (diagnostic : Diagnostic) : Diagnostic :=
  { diagnostic with notes := diagnostic.notes ++ [note] }

/-- The place as it follows the message, if there is one. -/
def placeText : Option Position → String
  | none => ""
  | some position => " at " ++ position.text

/-- One remark as it follows the place. -/
def noteText (note : String) : String :=
  " (note: " ++ note ++ ")"

/-- The written form: stage, message, place, and every remark in order. -/
def text (diagnostic : Diagnostic) : String :=
  diagnostic.stage.name ++ ": " ++ diagnostic.message ++
    placeText diagnostic.position ++
    String.join (diagnostic.notes.map noteText)

end Diagnostic

/-- Everything that can stop a request. -/
inductive Failure where
  /-- No text could be read under this path, which is kept as it was typed. -/
  | unreadable (path : String)
  /-- A cursor was asked to move before the first character. -/
  | bufferUnderflow
  /-- A run was asked for while no script was loaded. -/
  | noScriptLoaded
  /-- The first word of a command line is no command. -/
  | unknownCommand (verb : String)
  /-- A command was given without the argument it needs. -/
  | usage (command form : String)
  /-- A stage of the language found a fault in the script. -/
  | diagnostic (report : Diagnostic)
  /-- The output accepts no more text. -/
  | closedOutput
  deriving Repr, DecidableEq

namespace Failure

/-- The written form of a failure. -/
def message : Failure → String
  | .unreadable path => "cannot read `" ++ path ++ "`"
  | .bufferUnderflow =>
      "buffer underflow: cannot move before the first character"
  | .noScriptLoaded => "no script loaded; use `load <path>` first"
  | .unknownCommand verb => "? " ++ verb
  | .usage _ form => "usage: " ++ form
  | .diagnostic report => report.text
  | .closedOutput => "I/O error: closed"

end Failure

end OwlScript
