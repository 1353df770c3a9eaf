import OwlScript.Proofs.Shell.SideBySide
import OwlScript.Proofs.Shell.TypedLines
import OwlScript.Proofs.Source.CursorIndex

namespace OwlScript

/-!
# Histories of a shell

What a shell holds is read off the lines that were typed, without following the
shell: the script is the last one that was loaded since the last reset, and the
interpreter is a new one that has executed the programs run since then.  The
step lemma is that of a single line; the induction is on the lines.
-/

namespace TypedLine

/-- The script that the line loads, if it loads one. -/
def loaded? (rule : SplitRule) (typed : TypedLine) : Option Script :=
  match typed.command? rule with
  | some (.load path) => scriptOfFile? typed.files path
  | _ => none

/--
The line loads no script, does not reset, and has nothing to run if it is a
run, given the script that is loaded before it.
-/
structure IsIdle
    (rule : SplitRule)
    (loaded : Option Script)
    (typed : TypedLine) : Prop where
  loadsNothing : typed.loaded? rule = none
  notReset : typed.command? rule ≠ some .reset
  runsNothing : typed.command? rule = some .run → loaded = none

/-- Whether a line is idle can be read off its first two words. -/
theorem isIdle_iff
    (rule : SplitRule)
    (loaded : Option Script)
    (typed : TypedLine) :
    typed.IsIdle rule loaded ↔
      (∀ path, path ≠ "" → (typed.words rule).head? = some "load" →
        (typed.words rule)[1]? = some path →
          scriptOfFile? typed.files path = none) ∧
        (typed.words rule).head? ≠ some "reset" ∧
        ((typed.words rule).head? = some "run" → loaded = none) := by
  have loadsNothing :
      typed.loaded? rule = none ↔
        ∀ path, typed.command? rule = some (.load path) →
          scriptOfFile? typed.files path = none := by
    unfold loaded?
    split
    · next path isLoad =>
        simp [isLoad]
    · next notLoad =>
        exact ⟨fun _ path isLoad => absurd isLoad (notLoad path),
          fun _ => rfl⟩
  rw [← command?_eq_run_iff, ne_eq (List.head? _),
    ← command?_eq_reset_iff]
  constructor
  · intro idle
    refine ⟨?_, idle.notReset, idle.runsNothing⟩
    intro path notEmpty isVerb isPath
    exact loadsNothing.1 idle.loadsNothing path
      ((command?_eq_load_iff rule typed path).2 ⟨isVerb, isPath, notEmpty⟩)
  · rintro ⟨nothing, notReset, runsNothing⟩
    refine ⟨loadsNothing.2 ?_, notReset, runsNothing⟩
    intro path isLoad
    obtain ⟨isVerb, isPath, notEmpty⟩ :=
      (command?_eq_load_iff rule typed path).1 isLoad
    exact nothing path notEmpty isVerb isPath

/-- The program that the line runs, given the script that is loaded. -/
def programRun?
    (rule : SplitRule)
    (loaded : Option Script)
    (typed : TypedLine) :
    Option Program :=
  if typed.command? rule = some .run then
    loaded.map Script.program
  else
    none

end TypedLine

/-- The script loaded last by some lines. -/
def lastLoaded? (rule : SplitRule) (lines : List TypedLine) : Option Script :=
  (lines.filterMap (TypedLine.loaded? rule)).getLast?

/-- The programs that lines run, each of them the one loaded last before. -/
def programsRun
    (rule : SplitRule) :
    Option Script → List TypedLine → List Program
  | _, [] => []
  | loaded, typed :: later =>
      (typed.programRun? rule loaded).toList ++
        programsRun rule ((typed.loaded? rule).or loaded) later

/-- The lines behind the last one that resets. -/
def sinceReset
    (rule : SplitRule)
    (lines : List TypedLine) :
    List TypedLine :=
  (lines.reverse.takeWhile fun typed =>
    typed.command? rule != some .reset).reverse

namespace Shell

/--
The answers to some lines and the shell behind them, unless a run does not
finish.  Lines behind one that quits are carried out as well.
-/
def after
    (rounds : Nat) :
    List TypedLine → Shell → Option (List Flow × Shell)
  | [], shell => some ([], shell)
  | typed :: later, shell =>
      match shell.handleLine rounds typed.files typed.line with
      | none => none
      | some (flow, next) =>
          (after rounds later next).map fun (flows, last) =>
            (flow :: flows, last)

end Shell

/-- The script loaded last is that of the last line, if it loads one. -/
theorem lastLoaded?_cons
    (rule : SplitRule)
    (typed : TypedLine)
    (later : List TypedLine) :
    lastLoaded? rule (typed :: later) =
      (lastLoaded? rule later).or (typed.loaded? rule) := by
  unfold lastLoaded?
  rw [List.filterMap_cons]
  cases typed.loaded? rule with
  | none =>
      exact Option.or_none.symm
  | some script =>
      rw [List.getLast?_cons]
      cases (later.filterMap (TypedLine.loaded? rule)).getLast? with
      | none =>
          rfl
      | some other =>
          rfl

/-- Behind the last reset there is none, and it is in front of all lines or
there was none. -/
theorem sinceReset_spec
    (rule : SplitRule)
    (lines : List TypedLine) :
    (∀ typed ∈ sinceReset rule lines, typed.command? rule ≠ some .reset) ∧
      (sinceReset rule lines = lines ∨
        ∃ before typed, lines = before ++ typed :: sinceReset rule lines ∧
          typed.command? rule = some .reset) := by
  have whole :=
    @List.takeWhile_append_dropWhile _
      (fun typed : TypedLine => typed.command? rule != some .reset)
      lines.reverse
  have parts := congrArg List.reverse whole
  rw [List.reverse_append, List.reverse_reverse] at parts
  constructor
  · intro typed member
    rw [sinceReset, List.mem_reverse] at member
    have holds := List.all_eq_true.mp List.all_takeWhile typed member
    exact bne_iff_ne.mp holds
  · have stops :=
      List.head?_dropWhile_not
        (fun typed : TypedLine => typed.command? rule != some .reset)
        lines.reverse
    cases rest :
        lines.reverse.dropWhile
          fun typed => typed.command? rule != some .reset with
    | nil =>
        rw [rest] at parts
        exact Or.inl parts
    | cons typed earlier =>
        rw [rest] at parts stops
        have isReset : typed.command? rule = some .reset := by
          simpa using stops
        refine Or.inr ⟨earlier.reverse, typed, ?_, isReset⟩
        rw [List.reverse_cons, List.append_assoc] at parts
        exact parts.symm

namespace TypedLine

variable {rule : SplitRule}
variable {typed : TypedLine}

/-- A line that does not reset holds the script it loads, or the one before. -/
theorem scriptAfter_eq
    (notReset : typed.command? rule ≠ some .reset)
    (loaded : Option Script) :
    Command.scriptAfter typed.files loaded (typed.command? rule) =
      (typed.loaded? rule).or loaded := by
  unfold Command.scriptAfter loaded?
  cases isCommand : typed.command? rule with
  | none =>
      rfl
  | some command =>
      cases command with
      | reset =>
          exact absurd isCommand notReset
      | _ =>
          rfl

/-- A line that does not reset runs the program that it asks for, if any. -/
theorem interpreterAfter_eq
    (notReset : typed.command? rule ≠ some .reset)
    (rounds : Nat)
    (loaded : Option Script)
    (interpreter : Interpreter) :
    Command.interpreterAfter rounds loaded interpreter
        (typed.command? rule) =
      (typed.programRun? rule loaded).toList.foldlM
        (Interpreter.afterRun rounds) interpreter := by
  unfold Command.interpreterAfter programRun?
  cases isCommand : typed.command? rule with
  | none =>
      rfl
  | some command =>
      cases command with
      | reset =>
          exact absurd isCommand notReset
      | run =>
          cases loaded with
          | none =>
              rfl
          | some script =>
              exact (bind_pure _).symm
      | _ =>
          rfl

end TypedLine

namespace Shell

variable {rounds : Nat}
variable {shell last : Shell}
variable {flows : List Flow}

/-- Lines that are all answered are answered one after the other. -/
theorem exists_of_after_cons
    {typed : TypedLine}
    {later : List TypedLine}
    (answered : shell.after rounds (typed :: later) = some (flows, last)) :
    ∃ flow next rest,
      shell.handleLine rounds typed.files typed.line = some (flow, next) ∧
        next.after rounds later = some (rest, last) ∧
          flows = flow :: rest := by
  unfold after at answered
  cases first : shell.handleLine rounds typed.files typed.line with
  | none =>
      rw [first] at answered
      cases answered
  | some answer =>
      rw [first] at answered
      obtain ⟨⟨rest, final⟩, goesOn, same⟩ :=
        Option.map_eq_some_iff.mp answered
      cases same
      exact ⟨_, _, rest, rfl, goesOn, rfl⟩

/-- Lines are answered in two parts as they are in one. -/
theorem exists_of_after_append
    {before later : List TypedLine}
    (answered : shell.after rounds (before ++ later) = some (flows, last)) :
    ∃ first middle rest, shell.after rounds before = some (first, middle) ∧
      middle.after rounds later = some (rest, last) ∧
        flows = first ++ rest := by
  induction before generalizing shell flows with
  | nil =>
      exact ⟨[], shell, flows, rfl, answered, rfl⟩
  | cons typed before hypothesis =>
      obtain ⟨flow, next, rest, handled, goesOn, rfl⟩ :=
        exists_of_after_cons answered
      obtain ⟨first, middle, final, reached, ends, rfl⟩ := hypothesis goesOn
      refine ⟨flow :: first, middle, final, ?_, ends, rfl⟩
      rw [after, handled]
      exact Option.map_eq_some_iff.mpr ⟨_, reached, rfl⟩

/-- A shell keeps its rule and its output, and quits as the words say. -/
theorem flows_of_after
    {lines : List TypedLine}
    (unlimited : shell.output.room = none)
    (answered : shell.after rounds lines = some (flows, last)) :
    last.rule = shell.rule ∧ last.output.room = none ∧
      flows = lines.map (TypedLine.flow shell.rule) := by
  induction lines generalizing shell flows with
  | nil =>
      cases answered
      exact ⟨rfl, unlimited, rfl⟩
  | cons typed later hypothesis =>
      obtain ⟨flow, next, rest, handled, goesOn, rfl⟩ :=
        exists_of_after_cons answered
      obtain ⟨sameFlow, performed⟩ := handleLine_performs unlimited handled
      obtain ⟨rule, room, same⟩ := hypothesis performed.room goesOn
      rw [performed.rule] at rule same
      rw [sameFlow, same]
      exact ⟨rule, room, rfl⟩

/-- Without a reset, lines add to what the shell holds. -/
theorem holds_after_of_noReset
    {lines : List TypedLine}
    (unlimited : shell.output.room = none)
    (noReset :
      ∀ typed ∈ lines, typed.command? shell.rule ≠ some .reset)
    (answered : shell.after rounds lines = some (flows, last)) :
    last.script = (lastLoaded? shell.rule lines).or shell.script ∧
      (programsRun shell.rule shell.script lines).foldlM
          (Interpreter.afterRun rounds) shell.interpreter =
        some last.interpreter := by
  induction lines generalizing shell flows with
  | nil =>
      cases answered
      exact ⟨rfl, rfl⟩
  | cons typed later hypothesis =>
      rw [List.forall_mem_cons] at noReset
      obtain ⟨flow, next, rest, handled, goesOn, rfl⟩ :=
        exists_of_after_cons answered
      have performed := (handleLine_performs unlimited handled).2
      have script := performed.script
      have interpreter := performed.interpreter
      rw [TypedLine.scriptAfter_eq noReset.1] at script
      rw [TypedLine.interpreterAfter_eq noReset.1] at interpreter
      have laterHold := @hypothesis next rest performed.room
      rw [performed.rule, script] at laterHold
      obtain ⟨lastScript, lastInterpreter⟩ := laterHold noReset.2 goesOn
      constructor
      · rw [lastScript, lastLoaded?_cons, Option.or_assoc]
      · rw [programsRun, List.foldlM_append, interpreter]
        exact lastInterpreter

/-- Lines are answered alike by shells that hold the same. -/
theorem Behind.after
    {front : ByteArray}
    {other : Shell}
    (behind : shell.Behind front other)
    (lines : List TypedLine) :
    Option.Rel (AnswersAlike front) (shell.after rounds lines)
      (other.after rounds lines) := by
  induction lines generalizing shell other with
  | nil =>
      exact .some ⟨rfl, behind⟩
  | cons typed later hypothesis =>
      have alike := behind.handleLine rounds typed.files typed.line
      unfold Shell.after
      generalize shell.handleLine rounds typed.files typed.line = answer
        at alike ⊢
      generalize other.handleLine rounds typed.files typed.line = otherAnswer
        at alike ⊢
      cases alike with
      | none =>
          exact .none
      | @some answer otherAnswer alike =>
          obtain ⟨flow, next⟩ := answer
          obtain ⟨otherFlow, otherNext⟩ := otherAnswer
          obtain ⟨sameFlow, behindNext⟩ := alike
          have goesOn := hypothesis behindNext
          dsimp only at sameFlow ⊢
          generalize next.after rounds later = answers at goesOn ⊢
          generalize otherNext.after rounds later = otherAnswers at goesOn ⊢
          cases goesOn with
          | none =>
              exact .none
          | some alikeLater =>
              refine .some ⟨?_, alikeLater.behind⟩
              dsimp only
              rw [sameFlow, alikeLater.same]

/-- After a reset a shell goes on as a new one does. -/
theorem behind_fresh_of_reset
    {next : Shell}
    {typed : TypedLine}
    {flow : Flow}
    (unlimited : shell.output.room = none)
    (isReset : typed.command? shell.rule = some .reset)
    (handled :
      shell.handleLine rounds typed.files typed.line = some (flow, next)) :
    next.Behind next.output.delivered (fresh shell.rule Sink.unlimited) := by
  have performed := (handleLine_performs unlimited handled).2
  have script := performed.script
  have interpreter := performed.interpreter
  rw [isReset] at script interpreter
  exact
    { rule := performed.rule
      script := script
      interpreter := (Option.some.inj interpreter).symm
      output := Sink.behind_unlimited performed.room }

/-- What a new shell holds after some lines is read off the lines. -/
theorem holds_after_fresh
    {rule : SplitRule}
    {output : Sink}
    {history : List TypedLine}
    (unlimited : output.room = none)
    (answered :
      (fresh rule output).after rounds history = some (flows, last)) :
    last.script = lastLoaded? rule (sinceReset rule history) ∧
      (programsRun rule none (sinceReset rule history)).foldlM
          (Interpreter.afterRun rounds) Interpreter.fresh =
        some last.interpreter := by
  obtain ⟨noReset, isWhole | ⟨before, typed, parts, isReset⟩⟩ :=
    sinceReset_spec rule history
  · rw [isWhole] at noReset ⊢
    have holds := holds_after_of_noReset unlimited noReset answered
    rw [fresh, Option.or_none] at holds
    exact holds
  · rw [parts] at answered
    obtain ⟨first, middle, rest, reached, goesOn, _⟩ :=
      exists_of_after_append answered
    obtain ⟨flow, next, final, handled, ends, _⟩ :=
      exists_of_after_cons goesOn
    obtain ⟨sameRule, room, _⟩ := flows_of_after unlimited reached
    change middle.rule = rule at sameRule
    rw [← sameRule] at isReset
    have behind := behind_fresh_of_reset room isReset handled
    have sinceHolds :=
      @holds_after_of_noReset rounds next last final
        (sinceReset rule history) behind.output.room
    rw [behind.rule, behind.script, behind.interpreter, sameRule]
      at sinceHolds
    have holds := sinceHolds noReset ends
    rw [fresh, Option.or_none] at holds
    exact holds

/-- A line that is idle leaves the script and the interpreter. -/
theorem holds_after_idle
    {next : Shell}
    {typed : TypedLine}
    {flow : Flow}
    (unlimited : shell.output.room = none)
    (idle : typed.IsIdle shell.rule shell.script)
    (handled :
      shell.handleLine rounds typed.files typed.line = some (flow, next)) :
    next.script = shell.script ∧ next.interpreter = shell.interpreter := by
  have performed := (handleLine_performs unlimited handled).2
  have script := performed.script
  have interpreter := performed.interpreter
  rw [TypedLine.scriptAfter_eq idle.notReset, idle.loadsNothing,
    Option.none_or] at script
  have nothingRun : typed.programRun? shell.rule shell.script = none := by
    unfold TypedLine.programRun?
    by_cases isRun : typed.command? shell.rule = some .run
    · rw [if_pos isRun, idle.runsNothing isRun, Option.map_none]
    · rw [if_neg isRun]
  rw [TypedLine.interpreterAfter_eq idle.notReset, nothingRun] at interpreter
  exact ⟨script, (Option.some.inj interpreter).symm⟩

/--
What a new shell holds after a history of lines, with files changing between
them.  The script is the one loaded last since the last reset, and the
interpreter is a new one that has executed the programs run since then, whether
they failed or not.  The shell quits at the lines that say so, an idle line
leaves it as it is, and after a reset it goes on as a new shell does.  A buffer
left by an earlier scan stands, once a file is loaded into it, where the new
cursor on that file does.
-/
theorem history_determines_state
    {rule : SplitRule}
    {output : Sink}
    {history : List TypedLine}
    (unlimited : output.room = none)
    (answered :
      (fresh rule output).after rounds history = some (flows, last)) :
    last.script = lastLoaded? rule (sinceReset rule history) ∧
      (programsRun rule none (sinceReset rule history)).foldlM
          (Interpreter.afterRun rounds) Interpreter.fresh =
        some last.interpreter ∧
      flows = history.map (TypedLine.flow rule) ∧
      (∀ (typed : TypedLine) (flow : Flow) (next : Shell),
        typed.IsIdle rule last.script →
          last.handleLine rounds typed.files typed.line =
              some (flow, next) →
            next.script = last.script ∧
              next.interpreter = last.interpreter) ∧
      (∀ (before later : List TypedLine) (typed : TypedLine),
        history = before ++ typed :: later →
          typed.command? rule = some .reset →
            ∃ front other,
              (fresh rule Sink.unlimited).after rounds later =
                  some (flows.drop (before.length + 1), other) ∧
                last.Behind front other) ∧
      ∀ (leftover : Buffer) (files : Files) (path : String),
        ∃ text : IndexedText, text.index = 0 ∧
          (leftover.loadFile files path).1 = (Cursor.ofFile files path).1 ∧
            (leftover.loadFile files path).2.StandsAt text ∧
              (Cursor.ofFile files path).2.StandsAt text := by
  obtain ⟨script, interpreter⟩ := holds_after_fresh unlimited answered
  obtain ⟨isRule, room, sameFlows⟩ := flows_of_after unlimited answered
  change last.rule = rule at isRule
  refine ⟨script, interpreter, sameFlows, ?_, ?_, ?_⟩
  · intro typed flow next idle handled
    rw [← isRule] at idle
    exact holds_after_idle room idle handled
  · intro before later typed parts isReset
    rw [parts] at answered
    obtain ⟨first, middle, rest, reached, goesOn, rfl⟩ :=
      exists_of_after_append answered
    obtain ⟨flow, next, final, handled, ends, rfl⟩ :=
      exists_of_after_cons goesOn
    obtain ⟨sameRule, middleRoom, firstFlows⟩ :=
      flows_of_after unlimited reached
    change middle.rule = rule at sameRule
    rw [← sameRule] at isReset
    -- Behind the reset the shell is a fresh one, but for what it has written.
    have behind := behind_fresh_of_reset middleRoom isReset handled
    have alike := @Behind.after rounds _ _ _ behind later
    rw [sameRule, ends] at alike
    cases other : (fresh rule Sink.unlimited).after rounds later with
    | none =>
        rw [other] at alike
        cases alike
    | some answer =>
        rw [other] at alike
        obtain ⟨otherFlows, otherLast⟩ := answer
        cases alike with
        | some alike =>
            have sameFlows : final = otherFlows := alike.same
            have length : first.length = before.length := by
              rw [firstFlows, List.length_map]
            have rest : (first ++ flow :: final).drop (before.length + 1) =
                otherFlows := by
              rw [← length, List.drop_length_add_append, sameFlows]
              rfl
            exact ⟨_, otherLast, by rw [rest], alike.behind⟩
  · intro leftover files path
    have loaded := Buffer.loadFile_spec files path leftover
    have opened := Cursor.ofFile_spec files path
    exact ⟨_, rfl, loaded.1.trans opened.1.symm, loaded.2, opened.2⟩

/--
A run that fails midway, a reset, a load, a load that fails, and two runs: the
file of the second load stays, and two runs are counted.
-/
def historyWithReset : List TypedLine :=
  [⟨fun _ => some "let a = 1; print b".toUTF8, "load a"⟩,
    ⟨fun _ => none, " run"⟩, ⟨fun _ => none, "reset"⟩,
    ⟨fun _ => some "let c".toUTF8, "load a"⟩,
    ⟨fun _ => some "let c = 2".toUTF8, "load a"⟩,
    ⟨fun _ => none, "load a"⟩, ⟨fun _ => none, "run"⟩,
    ⟨fun _ => none, "run"⟩, ⟨fun _ => none, "exit"⟩]

/--
Of a history with a reset, the script loaded last and the runs behind the reset
are what is left.
-/
theorem historyWithReset_determines_state :
    ∃ flows last,
      (fresh .whitespace Sink.unlimited).after 4 historyWithReset =
          some (flows, last) ∧
        last.script.map Script.tokens =
            some
              [⟨.keyword .letWord, "let", ⟨1, 1⟩⟩, ⟨.identifier, "c", ⟨1, 5⟩⟩,
                ⟨.assign, "=", ⟨1, 7⟩⟩, ⟨.integer, "2", ⟨1, 9⟩⟩,
                ⟨.endOfInput, "", ⟨1, 10⟩⟩] ∧
          last.interpreter.runs = 2 ∧ flows.getLast? = some .quit := by
  cases answered :
      (fresh .whitespace Sink.unlimited).after 4 historyWithReset with
  | none =>
      have finishes :
          ((fresh .whitespace Sink.unlimited).after 4
            historyWithReset).isSome = true := by
        decide +kernel
      rw [answered] at finishes
      cases finishes
  | some answer =>
      obtain ⟨flows, last⟩ := answer
      obtain ⟨script, interpreter, sameFlows, _⟩ :=
        history_determines_state rfl answered
      have runs :
          ((programsRun .whitespace none
              (sinceReset .whitespace historyWithReset)).foldlM
            (Interpreter.afterRun 4) Interpreter.fresh).map
              Interpreter.runs =
            some 2 := by
        decide +kernel
      rw [interpreter] at runs
      refine ⟨flows, last, rfl, ?_, Option.some.inj runs, ?_⟩
      · rw [script]
        decide +kernel
      · rw [sameFlows]
        decide +kernel

end Shell

end OwlScript
