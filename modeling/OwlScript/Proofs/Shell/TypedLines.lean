import OwlScript.Proofs.Except
import OwlScript.Proofs.Run.OutputIndependence
import OwlScript.Proofs.Run.Writing
import OwlScript.Proofs.Run.WrittenPieces
import OwlScript.Shell.Session

namespace OwlScript

/-!
# What a line does to a shell

A line that was typed makes a command or none.  The script changes with a load
that succeeds and with a reset, the interpreter with a run and with a reset,
and every other line leaves both as they are, whatever it writes.  What has
been written before does not matter to the script, whether there is room left
or not, and as long as the output takes everything it does not matter to the
interpreter either.
-/

/-- A line as it was typed, and the files there were when it was. -/
structure TypedLine where
  files : Files
  line : String

/-- The tokens of a file and the program they make, if there are no faults. -/
def scriptOfFile? (files : Files) (path : String) : Option Script :=
  match tokensOfFile files path with
  | .error _ => none
  | .ok tokens =>
      match Program.ofTokens tokens with
      | .error _ => none
      | .ok program => some ⟨tokens, program⟩

/-- A script that is loaded is the script of its file. -/
theorem toOption_outcome_load
    (files : Files)
    (path : String) :
    (Script.load files path).outcome.toOption = scriptOfFile? files path := by
  unfold Script.load scriptOfFile?
  cases tokensOfFile files path with
  | error failure =>
      rfl
  | ok tokens =>
      unfold Script.ofTokens Program.ofTokens
      dsimp only
      cases (Program.parse tokens).outcome with
      | error fault =>
          rfl
      | ok program =>
          rfl

/-- The interpreter after a program, whether the program failed or not. -/
def Interpreter.afterRun
    (rounds : Nat)
    (interpreter : Interpreter)
    (program : Program) :
    Option Interpreter :=
  (program.run rounds
      ⟨interpreter, Sink.unlimited, RunTrace.start false⟩).state?.map
    Execution.interpreter

namespace Command

/-- The script that is loaded after a command, or after none. -/
def scriptAfter
    (files : Files)
    (loaded : Option Script) :
    Option Command → Option Script
  | some (.load path) => (scriptOfFile? files path).or loaded
  | some .reset => none
  | _ => loaded

/-- The interpreter after a command, unless a run does not finish. -/
def interpreterAfter
    (rounds : Nat)
    (loaded : Option Script)
    (interpreter : Interpreter) :
    Option Command → Option Interpreter
  | some .run =>
      match loaded with
      | some script => interpreter.afterRun rounds script.program
      | none => some interpreter
  | some .reset => some Interpreter.fresh
  | _ => some interpreter

/-- The first word and the argument make the command. -/
def IsMadeOf (verb : String) (argument : Option String) : Command → Prop
  | .load path => verb = "load" ∧ argument = some path
  | .run => verb = "run"
  | .listTokens => verb = "list" ∧ argument = some "tokens"
  | .listTree => verb = "list" ∧ argument = some "ast"
  | .reset => verb = "reset"
  | .spyMemory => verb = "spy" ∧ argument = some "memory"
  | .help => verb = "help" ∨ verb = "?"
  | .quit => verb = "quit" ∨ verb = "exit"

/-- The argument is the second word, unless that is empty. -/
theorem argument?_eq_some_iff (words : List String) (argument : String) :
    argument? words = some argument ↔
      words[1]? = some argument ∧ argument ≠ "" := by
  rw [argument?, Option.filter_eq_some_iff, Bool.not_eq_true',
    ← Bool.not_eq_true, String.isEmpty_iff]

/-- Each command is made of certain words only. -/
theorem ofVerb_eq_ok_iff
    (verb : String)
    (argument : Option String)
    (command : Command) :
    ofVerb verb argument = .ok command ↔ command.IsMadeOf verb argument := by
  constructor
  · intro made
    unfold ofVerb at made
    -- One case for each first word, in the order in which they are tried.
    split at made
    case h_1 load =>
        split at made <;> cases made
        exact ⟨rfl, rfl⟩
    case h_2 run =>
        cases made
        rfl
    case h_3 list =>
        split at made <;> cases made
        · exact ⟨rfl, rfl⟩
        · exact ⟨rfl, rfl⟩
    case h_4 reset =>
        cases made
        rfl
    case h_5 spy =>
        split at made <;> cases made
        exact ⟨rfl, rfl⟩
    case h_6 help =>
        cases made
        exact .inl rfl
    case h_7 questionMark =>
        cases made
        exact .inr rfl
    case h_8 quit =>
        cases made
        exact .inl rfl
    case h_9 exit =>
        cases made
        exact .inr rfl
    case h_10 unknown =>
        cases made
  · intro isMade
    cases command with
    | load path =>
        obtain ⟨rfl, rfl⟩ := isMade
        rfl
    | run =>
        cases isMade
        rfl
    | listTokens =>
        obtain ⟨rfl, rfl⟩ := isMade
        rfl
    | listTree =>
        obtain ⟨rfl, rfl⟩ := isMade
        rfl
    | reset =>
        cases isMade
        rfl
    | spyMemory =>
        obtain ⟨rfl, rfl⟩ := isMade
        rfl
    | help =>
        rcases isMade with rfl | rfl <;> rfl
    | quit =>
        rcases isMade with rfl | rfl <;> rfl

/-- No command is made of an empty first word. -/
theorem ne_empty_of_isMadeOf
    {verb : String}
    {argument : Option String}
    {command : Command}
    (isMade : command.IsMadeOf verb argument) :
    verb ≠ "" := by
  rintro rfl
  cases command <;> simp [IsMadeOf] at isMade

/-- Words make a command that their first two words make. -/
theorem parse_eq_ok_some_iff (words : List String) (command : Command) :
    parse words = .ok (some command) ↔
      ∃ verb ∈ words.head?, command.IsMadeOf verb (argument? words) := by
  cases words with
  | nil =>
      simp [parse]
  | cons first rest =>
      simp only [List.head?_cons, Option.mem_some_iff, exists_eq_left']
      unfold parse
      by_cases allEmpty : (first :: rest).all String.isEmpty = true
      · rw [if_pos allEmpty]
        have isEmpty : first.isEmpty = true :=
          List.all_eq_true.mp allEmpty first List.mem_cons_self
        refine ⟨nofun, fun isMade => ?_⟩
        exact absurd (String.isEmpty_iff.1 isEmpty)
          (ne_empty_of_isMadeOf isMade)
      · rw [if_neg allEmpty, List.headD_cons, Except.map_eq_ok_iff,
          ← ofVerb_eq_ok_iff]
        simp only [Option.some.injEq, exists_eq_right]

end Command

namespace TypedLine

/-- The words of the line. -/
def words (rule : SplitRule) (typed : TypedLine) : List String :=
  rule.split typed.line

/-- The command that the line makes; none if it is blank, unknown or misused. -/
def command? (rule : SplitRule) (typed : TypedLine) : Option Command :=
  match Command.parse (typed.words rule) with
  | .ok command => command
  | .error _ => none

/-- Whether the shell goes on after the line, by its first word. -/
def flow (rule : SplitRule) (typed : TypedLine) : Flow :=
  if (typed.words rule).head? = some "quit" ∨
      (typed.words rule).head? = some "exit" then
    .quit
  else
    .proceed

/-- A line whose words are refused is no command. -/
theorem command?_of_parse_error
    {rule : SplitRule}
    {typed : TypedLine}
    {failure : Failure}
    (refused : Command.parse (typed.words rule) = .error failure) :
    typed.command? rule = none := by
  rw [command?, refused]

/-- A line is the command that its words are. -/
theorem command?_of_parse_ok
    {rule : SplitRule}
    {typed : TypedLine}
    {command : Option Command}
    (parsed : Command.parse (typed.words rule) = .ok command) :
    typed.command? rule = command := by
  rw [command?, parsed]

/-- The line makes a command that its first two words make. -/
theorem command?_eq_some_iff
    (rule : SplitRule)
    (typed : TypedLine)
    (command : Command) :
    typed.command? rule = some command ↔
      ∃ verb ∈ (typed.words rule).head?,
        command.IsMadeOf verb (Command.argument? (typed.words rule)) := by
  rw [← Command.parse_eq_ok_some_iff]
  cases parsed : Command.parse (typed.words rule) with
  | error failure =>
      rw [command?_of_parse_error parsed]
      exact ⟨nofun, nofun⟩
  | ok made =>
      rw [command?_of_parse_ok parsed, Except.ok.injEq]

/-- A line quits if its first word says so, whatever is behind it. -/
theorem command?_eq_quit_iff
    (rule : SplitRule)
    (typed : TypedLine) :
    typed.command? rule = some .quit ↔
      (typed.words rule).head? = some "quit" ∨
        (typed.words rule).head? = some "exit" := by
  rw [command?_eq_some_iff]
  simp only [Command.IsMadeOf, Option.mem_def, and_or_left, exists_or,
    exists_eq_right]

/-- A line runs the script if its first word says so. -/
theorem command?_eq_run_iff
    (rule : SplitRule)
    (typed : TypedLine) :
    typed.command? rule = some .run ↔
      (typed.words rule).head? = some "run" := by
  rw [command?_eq_some_iff]
  simp only [Command.IsMadeOf, Option.mem_def, exists_eq_right]

/-- A line resets if its first word says so. -/
theorem command?_eq_reset_iff
    (rule : SplitRule)
    (typed : TypedLine) :
    typed.command? rule = some .reset ↔
      (typed.words rule).head? = some "reset" := by
  rw [command?_eq_some_iff]
  simp only [Command.IsMadeOf, Option.mem_def, exists_eq_right]

/-- A line loads what its second word names, which must not be empty. -/
theorem command?_eq_load_iff
    (rule : SplitRule)
    (typed : TypedLine)
    (path : String) :
    typed.command? rule = some (.load path) ↔
      (typed.words rule).head? = some "load" ∧
        (typed.words rule)[1]? = some path ∧ path ≠ "" := by
  rw [command?_eq_some_iff, ← Command.argument?_eq_some_iff]
  simp only [Command.IsMadeOf, Option.mem_def, ← and_assoc,
    exists_and_right, exists_eq_right]

/-- A line that quits ends the dialogue. -/
theorem flow_of_command?_eq_quit
    {rule : SplitRule}
    {typed : TypedLine}
    (isQuit : typed.command? rule = some .quit) :
    typed.flow rule = .quit :=
  if_pos ((command?_eq_quit_iff rule typed).mp isQuit)

/-- A line that does not quit goes on. -/
theorem flow_of_command?_ne_quit
    {rule : SplitRule}
    {typed : TypedLine}
    (notQuit : typed.command? rule ≠ some .quit) :
    typed.flow rule = .proceed :=
  if_neg fun isWord => notQuit ((command?_eq_quit_iff rule typed).mpr isWord)

/-- A line that is no command goes on. -/
theorem flow_of_command?_eq_none
    {rule : SplitRule}
    {typed : TypedLine}
    (noCommand : typed.command? rule = none) :
    typed.flow rule = .proceed := by
  refine flow_of_command?_ne_quit ?_
  rw [noCommand]
  exact (Option.some_ne_none _).symm

end TypedLine

/--
The shell after a command, as far as neither the interpreter nor the output
comes into it.
-/
structure Shell.Follows
    (files : Files)
    (command : Option Command)
    (shell after : Shell) : Prop where
  rule : after.rule = shell.rule
  script : after.script = Command.scriptAfter files shell.script command
  output : shell.output.LeadsTo after.output

/-- The shell after a command, as far as the output does not come into it. -/
structure Shell.Performed
    (rounds : Nat)
    (files : Files)
    (command : Option Command)
    (shell after : Shell) : Prop where
  rule : after.rule = shell.rule
  room : after.output.room = none
  script : after.script = Command.scriptAfter files shell.script command
  interpreter :
    Command.interpreterAfter rounds shell.script shell.interpreter command =
      some after.interpreter

/-- An unlimited output is a fresh one behind what it has delivered. -/
theorem Sink.behind_unlimited
    {sink : Sink}
    (unlimited : sink.room = none) :
    sink.Behind sink.delivered Sink.unlimited where
  room := unlimited
  otherRoom := rfl
  delivered := ByteArray.append_empty.symm

namespace Shell

/-- What comes of a line before a failure is reported. -/
def attempt
    (rounds : Nat)
    (typed : TypedLine)
    (shell : Shell) :
    Outcome Shell :=
  match Command.parse (typed.words shell.rule) with
  | .error failure => .failed failure shell
  | .ok none => .completed shell
  | .ok (some command) => shell.perform rounds typed.files command

/-- The shell once a failure is reported; none if a run does not finish. -/
def settled : Outcome Shell → Option Shell
  | .completed after => some after
  | .failed failure after => some (after.report failure)
  | .unfinished => none

variable {rounds : Nat}
variable {files : Files}
variable {typed : TypedLine}
variable {command : Command}
variable {shell after : Shell}

/-- A command that fails goes on. -/
theorem flowAfter_of_failed
    {failure : Failure}
    (failed : shell.perform rounds files command = .failed failure after) :
    flowAfter command = .proceed := by
  cases command with
  | quit =>
      cases failed
  | _ =>
      rfl

/-- The flow behind a command is that of the line it was typed as. -/
theorem flowAfter_eq_flow
    {rule : SplitRule}
    (parsed : Command.parse (typed.words rule) = .ok (some command)) :
    flowAfter command = typed.flow rule := by
  have isCommand := TypedLine.command?_of_parse_ok parsed
  by_cases isQuit : command = .quit
  · rw [isQuit] at isCommand
    rw [isQuit, TypedLine.flow_of_command?_eq_quit isCommand]
    rfl
  · have notQuit : typed.command? rule ≠ some .quit := by
      rw [isCommand]
      intro same
      exact isQuit (Option.some.inj same)
    rw [TypedLine.flow_of_command?_ne_quit notQuit]
    cases command with
    | quit =>
        exact absurd rfl isQuit
    | _ =>
        rfl

/-- A line is attempted and a failure reported; the words make the flow. -/
theorem handleLine_eq_settled_attempt
    (rounds : Nat)
    (typed : TypedLine)
    (shell : Shell) :
    shell.handleLine rounds typed.files typed.line =
      (settled (shell.attempt rounds typed)).map fun after =>
        (typed.flow shell.rule, after) := by
  have words : shell.rule.split typed.line = typed.words shell.rule := rfl
  rw [handleLine, attempt, words]
  cases parsed : Command.parse (typed.words shell.rule) with
  | error failure =>
      have noCommand := TypedLine.command?_of_parse_error parsed
      rw [TypedLine.flow_of_command?_eq_none noCommand]
      rfl
  | ok made =>
      cases made with
      | none =>
          have noCommand := TypedLine.command?_of_parse_ok parsed
          rw [TypedLine.flow_of_command?_eq_none noCommand]
          rfl
      | some command =>
          rw [← flowAfter_eq_flow parsed]
          dsimp only
          cases performed : shell.perform rounds typed.files command with
          | completed after =>
              rfl
          | failed failure after =>
              rw [flowAfter_of_failed performed]
              rfl
          | unfinished =>
              rfl

/-- The line is answered as its words say, with the shell that is settled. -/
theorem settled_of_handleLine
    {flow : Flow}
    (answered :
      shell.handleLine rounds typed.files typed.line = some (flow, after)) :
    flow = typed.flow shell.rule ∧
      settled (shell.attempt rounds typed) = some after := by
  rw [handleLine_eq_settled_attempt, Option.map_eq_some_iff] at answered
  obtain ⟨_, isSettled, same⟩ := answered
  cases same
  exact ⟨rfl, isSettled⟩

/-- What a shell is settled to is what was left, with a failure reported. -/
theorem exists_left_of_settled
    {outcome : Outcome Shell}
    (isSettled : settled outcome = some after) :
    ∃ left, outcome.state? = some left ∧
      (after = left ∨ ∃ failure, after = left.report failure) := by
  cases outcome with
  | completed left =>
      cases isSettled
      exact ⟨after, rfl, .inl rfl⟩
  | failed failure left =>
      cases isSettled
      exact ⟨left, rfl, .inr ⟨failure, rfl⟩⟩
  | unfinished =>
      cases isSettled

/-- Attempting a line is performing its command, if it has one. -/
theorem cases_of_attempt
    (left : (shell.attempt rounds typed).state? = some after) :
    (typed.command? shell.rule = none ∧ after = shell) ∨
      ∃ command, typed.command? shell.rule = some command ∧
        (shell.perform rounds typed.files command).state? = some after := by
  unfold attempt at left
  cases parsed : Command.parse (typed.words shell.rule) with
  | error failure =>
      rw [parsed] at left
      cases left
      exact .inl ⟨TypedLine.command?_of_parse_error parsed, rfl⟩
  | ok made =>
      rw [parsed] at left
      cases made with
      | none =>
          cases left
          exact .inl ⟨TypedLine.command?_of_parse_ok parsed, rfl⟩
      | some command =>
          exact .inr ⟨command, TypedLine.command?_of_parse_ok parsed, left⟩

/-- The shell after a text, whether it has fitted or not. -/
theorem eq_of_write
    {text : String}
    (left : (shell.write text).state? = some after) :
    after = { shell with output := (shell.output.write text).2 } := by
  obtain ⟨rule, script, interpreter, output⟩ := shell
  unfold write deliver at left
  dsimp only at left ⊢
  generalize output.write text = answer at left ⊢
  obtain ⟨fits, written⟩ := answer
  cases fits with
  | true =>
      cases left
      rfl
  | false =>
      cases left
      rfl

/--
What a run of the script leaves of a shell is the state of the run, beside the
script held.
-/
theorem state?_runScript
    (rounds : Nat)
    (rule : SplitRule)
    (script : Script)
    (interpreter : Interpreter)
    (output : Sink) :
    (runScript rounds ⟨rule, some script, interpreter, output⟩).state? =
      (script.program.run rounds
          ⟨interpreter, output, RunTrace.start false⟩).state?.map
        (afterRun rule (some script)) := by
  unfold runScript
  dsimp only
  cases script.program.run rounds ⟨interpreter, output, .start false⟩ with
  | completed state =>
      rfl
  | failed failure state =>
      rfl
  | unfinished =>
      rfl

/-- A command that only writes leaves the script and the interpreter. -/
theorem Follows.of_write
    {command : Option Command}
    (keeps : Command.scriptAfter files shell.script command = shell.script)
    {text : String}
    (left : (shell.write text).state? = some after) :
    shell.Follows files command after := by
  rw [eq_of_write left]
  exact ⟨rfl, keeps.symm, .write .nothing text⟩

/-- A run follows what the command asks for. -/
theorem follows_runScript
    (left : (shell.runScript rounds).state? = some after)
    (files : Files) :
    shell.Follows files (some .run) after := by
  obtain ⟨rule, loaded, interpreter, output⟩ := shell
  cases loaded with
  | none =>
      cases left
      exact ⟨rfl, rfl, .nothing⟩
  | some script =>
      rw [state?_runScript, Option.map_eq_some_iff] at left
      obtain ⟨state, ran, rfl⟩ := left
      exact ⟨rfl, rfl, Program.leadsTo_of_run ran⟩

/-- A load follows what the command asks for. -/
theorem follows_load
    {path : String}
    (left : (shell.load files path).state? = some after) :
    shell.Follows files (some (.load path)) after := by
  have loaded := toOption_outcome_load files path
  unfold load at left
  cases outcome : (Script.load files path).outcome with
  | error failure =>
      rw [outcome] at loaded left
      cases left
      exact ⟨rfl, by rw [Command.scriptAfter, ← loaded]; rfl, .nothing⟩
  | ok script =>
      rw [outcome] at loaded left
      cases left
      exact ⟨rfl, by rw [Command.scriptAfter, ← loaded]; rfl, .nothing⟩

/-- A command changes the script as it says, and only writes to the output. -/
theorem follows_perform
    (left : (shell.perform rounds files command).state? = some after) :
    shell.Follows files (some command) after := by
  cases command with
  | load path =>
      exact follows_load left
  | run =>
      exact follows_runScript left files
  | listTokens =>
      rw [perform_listTokens] at left
      exact .of_write rfl left
  | listTree =>
      rw [perform_listTree] at left
      split at left
      · exact .of_write rfl left
      · cases left
        exact ⟨rfl, rfl, .nothing⟩
  | reset =>
      cases left
      exact ⟨rfl, rfl, .nothing⟩
  | spyMemory =>
      exact .of_write rfl left
  | help =>
      exact .of_write rfl left
  | quit =>
      cases left
      exact ⟨rfl, rfl, .nothing⟩

/-- So does a line, whether it comes to a failure or not. -/
theorem follows_of_settled
    (isSettled : settled (shell.attempt rounds typed) = some after) :
    shell.Follows typed.files (typed.command? shell.rule) after := by
  obtain ⟨state, left, report⟩ := exists_left_of_settled isSettled
  have follows :
      shell.Follows typed.files (typed.command? shell.rule) state := by
    rcases cases_of_attempt left with
      ⟨noCommand, rfl⟩ | ⟨command, isCommand, performed⟩
    · rw [noCommand]
      exact ⟨rfl, rfl, .nothing⟩
    · rw [isCommand]
      exact follows_perform performed
  rcases report with rfl | ⟨failure, rfl⟩
  · exact follows
  · exact ⟨follows.rule, follows.script, follows.output.write _⟩

/-- Without a limit, what a run leaves is what it leaves with a new output. -/
theorem interpreterAfter_runScript
    (unlimited : shell.output.room = none)
    (left : (shell.runScript rounds).state? = some after) :
    Command.interpreterAfter rounds shell.script shell.interpreter
        (some .run) =
      some after.interpreter := by
  obtain ⟨rule, loaded, interpreter, output⟩ := shell
  cases loaded with
  | none =>
      cases left
      rfl
  | some script =>
      rw [state?_runScript, Option.map_eq_some_iff] at left
      obtain ⟨state, ran, rfl⟩ := left
      have behind :
          Execution.Behind output.delivered
            ⟨interpreter, output, RunTrace.start false⟩
            ⟨interpreter, Sink.unlimited, RunTrace.start false⟩ :=
        { interpreter := rfl
          output := Sink.behind_unlimited unlimited }
      obtain ⟨other, otherRan, related⟩ :=
        (Program.run_behind rounds script.program behind).exists_state? ran
      simp only [Command.interpreterAfter, Interpreter.afterRun, otherRan,
        Option.map_some, Shell.afterRun, related.interpreter]

/-- A command changes the interpreter as it says. -/
theorem interpreterAfter_perform
    (unlimited : shell.output.room = none)
    (left : (shell.perform rounds files command).state? = some after) :
    Command.interpreterAfter rounds shell.script shell.interpreter
        (some command) =
      some after.interpreter := by
  cases command with
  | load path =>
      unfold perform load at left
      dsimp only at left
      split at left
      all_goals
        cases left
        rfl
  | run =>
      exact interpreterAfter_runScript unlimited left
  | listTokens =>
      rw [perform_listTokens] at left
      rw [eq_of_write left]
      rfl
  | listTree =>
      rw [perform_listTree] at left
      split at left
      · rw [eq_of_write left]
        rfl
      · cases left
        rfl
  | reset =>
      cases left
      rfl
  | spyMemory =>
      rw [eq_of_write left]
      rfl
  | help =>
      rw [eq_of_write left]
      rfl
  | quit =>
      cases left
      rfl

/-- The interpreter behind a line is the one its command comes to. -/
theorem interpreterAfter_of_settled
    (unlimited : shell.output.room = none)
    (isSettled : settled (shell.attempt rounds typed) = some after) :
    Command.interpreterAfter rounds shell.script shell.interpreter
        (typed.command? shell.rule) =
      some after.interpreter := by
  obtain ⟨state, left, report⟩ := exists_left_of_settled isSettled
  have sameInterpreter : after.interpreter = state.interpreter := by
    rcases report with rfl | ⟨failure, rfl⟩
    · rfl
    · rfl
  rw [sameInterpreter]
  rcases cases_of_attempt left with
    ⟨noCommand, rfl⟩ | ⟨command, isCommand, performed⟩
  · rw [noCommand]
    rfl
  · rw [isCommand]
    exact interpreterAfter_perform unlimited performed

/-- A line does to the shell what its command does. -/
theorem handleLine_performs
    {shell after : Shell}
    {rounds : Nat}
    {typed : TypedLine}
    {flow : Flow}
    (unlimited : shell.output.room = none)
    (answered :
      shell.handleLine rounds typed.files typed.line = some (flow, after)) :
    flow = typed.flow shell.rule ∧
      shell.Performed rounds typed.files (typed.command? shell.rule)
        after := by
  obtain ⟨sameFlow, isSettled⟩ := settled_of_handleLine answered
  have follows := follows_of_settled isSettled
  exact ⟨sameFlow,
    { rule := follows.rule
      room := (follows.output.exists_delivered unlimited).1
      script := follows.script
      interpreter := interpreterAfter_of_settled unlimited isSettled }⟩

end Shell

end OwlScript
