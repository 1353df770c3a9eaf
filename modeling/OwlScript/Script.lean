import OwlScript.Parse.Program
import OwlScript.Token.Scan

namespace OwlScript

/-!
# Scripts

A script is what loading a file gives: its tokens and the program they make.
-/

/-- The tokens of a file and the program they make. -/
structure Script where
  tokens : List Token
  program : Program

/-- What comes of loading: a script or a failure, and the parser's events. -/
structure Loading where
  outcome : Except Failure Script
  events : Array ParseEvent

namespace Script

/-- Parses tokens that have been scanned. -/
def ofTokens (tokens : List Token) : Loading :=
  let parsing := Program.parse tokens
  match parsing.outcome with
  | .ok program => ⟨.ok ⟨tokens, program⟩, parsing.events⟩
  | .error fault => ⟨.error (.diagnostic fault), parsing.events⟩

/-- Reads, scans and parses the file under a path. -/
def load (files : Files) (path : String) : Loading :=
  match tokensOfFile files path with
  | .ok tokens => ofTokens tokens
  | .error failure => ⟨.error failure, #[]⟩

end Script

end OwlScript
