import OwlScript.Proofs.Token.Progress
import OwlScript.Script

namespace OwlScript

/-!
# What comes of loading

A file is loaded as a script if it is scanned and its tokens are parsed.
Otherwise there is no text under the path, or a stage of the language reports
a fault.
-/

namespace Script

/-- A script is loaded if its file is scanned and its tokens are parsed. -/
theorem load_eq_ok_iff
    {files : Files}
    {path : String}
    {script : Script} :
    (load files path).outcome = .ok script ↔
      tokensOfFile files path = .ok script.tokens ∧
        Program.ofTokens script.tokens = .ok script.program := by
  rcases script with ⟨tokens, program⟩
  simp only [load]
  cases tokensOfFile files path with
  | error failure =>
      exact ⟨nofun, nofun⟩
  | ok found =>
      simp only [ofTokens, Program.ofTokens, Except.ok.injEq]
      constructor
      · intro loaded
        cases parsed : (Program.parse found).outcome with
        | error fault =>
            rw [parsed] at loaded
            cases loaded
        | ok made =>
            rw [parsed] at loaded
            cases loaded
            exact ⟨rfl, parsed⟩
      · rintro ⟨rfl, parsed⟩
        rw [parsed]

/-- A loading that is computed to succeed makes a script. -/
theorem exists_load_of_isSome
    {files : Files}
    {path : String}
    (loads : (load files path).outcome.toOption.isSome = true) :
    ∃ script, (load files path).outcome = .ok script := by
  cases outcome : (load files path).outcome with
  | error failure =>
      rw [outcome] at loads
      cases loads
  | ok script =>
      exact ⟨script, rfl⟩

/-- A fault of the tokens is the failure of loading. -/
theorem load_eq_error_of_ofTokens
    {files : Files}
    {path : String}
    {tokens : List Token}
    {fault : Diagnostic}
    (scanned : tokensOfFile files path = .ok tokens)
    (refused : Program.ofTokens tokens = .error fault) :
    (load files path).outcome = .error (.diagnostic fault) := by
  have parsed : (Program.parse tokens).outcome = .error fault := refused
  simp only [load, scanned, ofTokens, parsed]

/--
Loading fails for want of a text, with a string that does not end, or with a
fault of the tokens.
-/
theorem cases_of_load
    {files : Files}
    {path : String}
    {failure : Failure}
    (failed : (load files path).outcome = .error failure) :
    failure = .unreadable path ∨
      (∃ position, failure = Scan.unterminatedString position) ∨
      ∃ tokens fault, tokensOfFile files path = .ok tokens ∧
        Program.ofTokens tokens = .error fault ∧
          failure = .diagnostic fault := by
  simp only [load] at failed
  cases scanned : tokensOfFile files path with
  | error found =>
      rw [scanned] at failed
      cases failed
      simp only [tokensOfFile] at scanned
      rcases opened : Cursor.ofFile files path with ⟨isReadable, cursor⟩
      rw [opened] at scanned
      cases isReadable with
      | false =>
          cases scanned
          exact .inl rfl
      | true =>
          obtain ⟨character, _, _, rfl⟩ :=
            Scan.exists_of_tokens_eq_error cursor scanned
          exact .inr (.inl ⟨_, rfl⟩)
  | ok tokens =>
      rw [scanned] at failed
      simp only [ofTokens] at failed
      cases parsed : (Program.parse tokens).outcome with
      | error fault =>
          rw [parsed] at failed
          cases failed
          exact .inr (.inr ⟨tokens, fault, rfl, parsed, rfl⟩)
      | ok program =>
          rw [parsed] at failed
          cases failed

/-- Loading fails for want of a text, or with a diagnostic. -/
theorem failure_of_load
    {files : Files}
    {path : String}
    {failure : Failure}
    (failed : (load files path).outcome = .error failure) :
    failure = .unreadable path ∨ ∃ fault, failure = .diagnostic fault := by
  rcases cases_of_load failed with
    unreadable | ⟨position, rfl⟩ | ⟨tokens, fault, _, _, rfl⟩
  · exact .inl unreadable
  · exact .inr ⟨_, rfl⟩
  · exact .inr ⟨fault, rfl⟩

end Script

end OwlScript
