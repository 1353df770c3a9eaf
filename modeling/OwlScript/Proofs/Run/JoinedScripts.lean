import OwlScript.Proofs.Parse.JoinedPrograms
import OwlScript.Proofs.Run.Simulation
import OwlScript.Proofs.Script.Loading
import OwlScript.Proofs.Token.JoinedFiles

namespace OwlScript

/-!
# Scripts joined

Two scripts that are loaded by themselves are loaded as one with a semicolon
between them, and running this one does what running the two in turn on the
same interpreter does.  Only the number of runs is another, and what is
diagnosed in the second script is further down.
-/

/--
Two executions with the same variables and the same output, where some runs
fewer are counted in the first one.
-/
structure Execution.CountsFewer
    (fewer : Nat)
    (state other : Execution) : Prop where
  globals : state.globals = other.globals
  output : state.output = other.output
  runs : state.interpreter.runs + fewer = other.interpreter.runs

namespace Execution.CountsFewer

variable {fewer : Nat}
variable {state other : Execution}

/-- Counting fewer statements makes no difference to what is stored. -/
theorem insert
    (alike : state.CountsFewer fewer other)
    (name : String)
    (stored : Stored) :
    (state.insert name stored).CountsFewer fewer
      (other.insert name stored) where
  globals := by
    simp only [Execution.insert, Execution.globals]
    exact congrArg (fun globals => globals.insert name stored) alike.globals
  output := alike.output
  runs := alike.runs

/-- No step looks at the number of runs. -/
theorem simulation
    (statements : List Statement)
    (expressions : List Expression)
    (fewer : Nat) :
    Simulation statements expressions (Execution.CountsFewer fewer) where
  record alike _ _ := ⟨alike.globals, alike.output, alike.runs⟩
  evaluate alike expression _ := by
    rw [alike.globals]
  contains alike _ _ _ _ := by
    rw [alike.globals]
  bind alike _ _ _ _ stored := alike.insert _ stored
  assign alike _ _ _ _ _ _ stored := alike.insert _ stored
  write alike text :=
    Execution.write_related alike.output
      (fun _ => ⟨alike.globals, rfl, alike.runs⟩) text

end Execution.CountsFewer

/-- Statements behind others are executed if these are completed. -/
theorem Statement.executeBlock_append
    (rounds : Nat)
    (front back : List Statement)
    (state : Execution) :
    executeBlock rounds (front ++ back) state =
      match executeBlock rounds front state with
      | .completed after => executeBlock rounds back after
      | .failed failure after => .failed failure after
      | .unfinished => .unfinished := by
  induction front generalizing state with
  | nil =>
      rfl
  | cons statement rest hypothesis =>
      simp only [List.cons_append, executeBlock]
      cases execute rounds statement (state.announce statement) with
      | completed after =>
          exact hypothesis after
      | failed failure after =>
          rfl
      | unfinished =>
          rfl

namespace Program

/--
A program that is joined from two does what the two do in turn.  If the first
one is not completed, that is all; if it is, the second one goes on from there
and what it reports is displaced.
-/
theorem run_joined
    (rounds : Nat)
    (first second : Program)
    (move : Position → Position)
    (state : Execution) :
    ((∀ middle, first.run rounds state ≠ .completed middle) →
      ((first.joined (second.moved move)).run rounds state).Related
        (Execution.CountsFewer 0) (first.run rounds state)) ∧
    ∀ middle, first.run rounds state = .completed middle →
      ((first.joined (second.moved move)).run rounds state).Related
        (Execution.CountsFewer 1)
        ((second.run rounds middle).mapFailure (Failure.moved move)) := by
  have begun :
      (state.counted
          (first.joined (second.moved move)).statements.length).CountsFewer 0
        (state.counted first.statements.length) :=
    { globals := rfl
      output := rfl
      runs := rfl }
  have front :=
    (Execution.CountsFewer.simulation _ _ 0).executeBlock rounds
      (List.Subset.refl (Statement.blockSimpleStatements first.statements))
      (List.Subset.refl _) begun
  have whole :
      (first.joined (second.moved move)).run rounds state =
        match
          Statement.executeBlock rounds first.statements
            (state.counted
              (first.joined (second.moved move)).statements.length) with
        | .completed after =>
            Statement.executeBlock rounds (second.moved move).statements after
        | .failed failure after => .failed failure after
        | .unfinished => .unfinished :=
    Statement.executeBlock_append rounds _ _ _
  rw [← run_eq] at front
  rw [whole]
  generalize first.run rounds state = outcome at front ⊢
  generalize Statement.executeBlock rounds first.statements _ = joinedOutcome
    at front ⊢
  cases front with
  | @completed joinedMiddle middle alike =>
      refine ⟨fun notCompleted => absurd rfl (notCompleted middle), ?_⟩
      rintro _ ⟨rfl⟩
      have begunAgain :
          joinedMiddle.CountsFewer 1
            (middle.counted second.statements.length) :=
        { globals := alike.globals
          output := alike.output
          runs := congrArg Nat.succ alike.runs }
      exact (Execution.CountsFewer.simulation _ _ 1).executeBlock_moved move
        rounds second.statements (List.Subset.refl _) (List.Subset.refl _)
        begunAgain
  | failed failure alike =>
      exact ⟨fun _ => .failed failure alike, nofun⟩
  | unfinished =>
      exact ⟨fun _ => .unfinished, nofun⟩

end Program

namespace Script

variable {files : Files}

/--
Two scripts that are loaded by themselves are loaded as one with a line
between them that holds a semicolon.  The program has the statements of the
first script and behind them those of the second, as many lines further down
as stand in front of it.  Its run does what the runs of the two scripts in turn
do on one interpreter, and reports the same, what is diagnosed in the second
script as far down.  It counts as one run where the two count as two.
-/
theorem load_joined
    {firstPath secondPath joinedPath first second : String}
    {firstScript secondScript : Script}
    (firstHolds : files firstPath = some first.toUTF8)
    (secondHolds : files secondPath = some second.toUTF8)
    (joinedHolds :
      files joinedPath = some (first ++ "\n;\n" ++ second).toUTF8)
    (firstLoaded : (load files firstPath).outcome = .ok firstScript)
    (secondLoaded : (load files secondPath).outcome = .ok secondScript) :
    ∃ script,
      (load files joinedPath).outcome = .ok script ∧
        script.program.statements =
          firstScript.program.statements ++
            Statement.blockMoved
              (Position.below (Text.lines (first ++ "\n;\n")).length)
              secondScript.program.statements ∧
        ∀ rounds state,
          ((∀ middle,
              firstScript.program.run rounds state ≠ .completed middle) →
            (script.program.run rounds state).Related
              (Execution.CountsFewer 0)
              (firstScript.program.run rounds state)) ∧
          ∀ middle,
            firstScript.program.run rounds state = .completed middle →
              (script.program.run rounds state).Related
                (Execution.CountsFewer 1)
                ((secondScript.program.run rounds middle).mapFailure
                  (Failure.moved
                    (Position.below
                      (Text.lines (first ++ "\n;\n")).length))) := by
  obtain ⟨firstScanned, firstParsed⟩ := load_eq_ok_iff.1 firstLoaded
  obtain ⟨secondScanned, secondParsed⟩ := load_eq_ok_iff.1 secondLoaded
  obtain ⟨firstBody, secondBody, firstEnd, secondEnd, joinedEnd, separator,
    noEnd, firstIsEnd, secondIsEnd, joinedIsEnd, separates, firstShape,
    secondShape, joinedScanned⟩ :=
    tokensOfFile_joined firstHolds secondHolds joinedHolds firstScanned
      secondScanned
  rw [firstShape] at firstParsed
  rw [secondShape] at secondParsed
  have joinedParsed :=
    Program.ofTokens_joined noEnd firstIsEnd secondIsEnd joinedIsEnd separates
      firstParsed secondParsed
      (Position.below (Text.lines (first ++ "\n;\n")).length)
  refine ⟨⟨_, _⟩, load_eq_ok_iff.2 ⟨joinedScanned, joinedParsed⟩, rfl, ?_⟩
  intro rounds state
  exact Program.run_joined rounds _ _ _ state

/--
A script that ends in a conditional statement without its last line closed,
one that fails behind an assignment, and the two joined.
-/
def joinedFiles : Files := fun path =>
  if path = "first" then
    some "let a = 1\nif a \x7b print a \x7d\r".toUTF8
  else if path = "second" then
    some "- a\na = 2; print b".toUTF8
  else
    some
      ("let a = 1\nif a \x7b print a \x7d\r" ++ "\n;\n" ++
        "- a\na = 2; print b").toUTF8

/--
Two files and the joined one load, and the joined one has the statements of
both, those of the second three lines below.
-/
theorem joinedFiles_load_joined :
    ∃ firstScript secondScript script,
      (load joinedFiles "first").outcome = .ok firstScript ∧
        (load joinedFiles "second").outcome = .ok secondScript ∧
        (load joinedFiles "both").outcome = .ok script ∧
        script.program.statements =
          firstScript.program.statements ++
            Statement.blockMoved (Position.below 3)
              secondScript.program.statements := by
  obtain ⟨firstScript, firstLoaded⟩ :=
    @exists_load_of_isSome joinedFiles "first" (by decide +kernel)
  obtain ⟨secondScript, secondLoaded⟩ :=
    @exists_load_of_isSome joinedFiles "second" (by decide +kernel)
  obtain ⟨script, loaded, statements, _⟩ :=
    @load_joined joinedFiles "first" "second" "both" _ _ _ _ rfl rfl rfl
      firstLoaded secondLoaded
  have lineCount :
      (Text.lines
        ("let a = 1\nif a \x7b print a \x7d\r" ++ "\n;\n")).length = 3 := by
    decide +kernel
  rw [lineCount] at statements
  exact ⟨firstScript, secondScript, script, firstLoaded, secondLoaded, loaded,
    statements⟩

end Script

end OwlScript
