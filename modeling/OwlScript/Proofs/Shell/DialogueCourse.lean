import Mathlib.Data.List.Forall2
import OwlScript.Proofs.Run.TruncatedSink
import OwlScript.Proofs.Shell.History
import OwlScript.Proofs.Shell.InputLines

namespace OwlScript

/-!
# The course of a dialogue

A dialogue hands the lines of its input to the shell, one after the other.  It
ends behind the first line that quits, in front of the first one that is no
text, or with the input.  The prompt is written once for each line handled, and
once more unless the last of them quits, and what becomes of it does not matter
to the shell.
-/

namespace Sink

/--
Texts that are written in turn are written as one, even if they do not fit.
-/
theorem write_append_snd (sink : Sink) (front back : String) :
    (sink.write (front ++ back)).2 =
      ((sink.write front).2.write back).2 := by
  rw [write_append]
  cases written : sink.write front with
  | mk fits after =>
      cases fits with
      | true =>
          rfl
      | false =>
          have isFull : after.room = some 0 := by
            unfold write at written
            dsimp only at written
            split at written
            · cases written
            · split at written
              · cases written
              · cases written
                rfl
          exact (write_of_full isFull back).symm

end Sink

namespace DialogueEnd

/--
Where a dialogue ends, by the answers to the lines that were handled: behind
the first line that quits, with the last line, or in front of a line that is no
text.
-/
def IsAt
    (ending : DialogueEnd)
    (lines : List (List UInt8))
    (flows : List Flow) : Prop :=
  match ending with
  | .quit =>
      ∃ before, flows = before ++ [.quit] ∧ ∀ flow ∈ before, flow = .proceed
  | .endOfInput =>
      flows.length = lines.length ∧ ∀ flow ∈ flows, flow = .proceed
  | .invalidInput =>
      (∀ flow ∈ flows, flow = .proceed) ∧
        ∃ bytes, lines[flows.length]? = some bytes ∧ ¬IsText bytes

/-- The prompts that are shown for some lines handled. -/
def promptCount (ending : DialogueEnd) (handled : Nat) : Nat :=
  match ending with
  | .quit => handled
  | .endOfInput => handled + 1
  | .invalidInput => handled + 1

/-- A line more that was handled was prompted for once more. -/
theorem promptCount_succ (ending : DialogueEnd) (handled : Nat) :
    ending.promptCount (handled + 1) = ending.promptCount handled + 1 := by
  cases ending <;> rfl

variable {ending : DialogueEnd}
variable {bytes : List UInt8}
variable {rest : List (List UInt8)}

/-- With no lines and no answers, only the end of the input is left. -/
theorem isAt_nil_nil_iff : ending.IsAt [] [] ↔ ending = .endOfInput := by
  cases ending <;> simp [IsAt]

/-- No line is handled if the first one is no text. -/
theorem isAt_cons_nil_iff :
    ending.IsAt (bytes :: rest) [] ↔
      ending = .invalidInput ∧ ¬IsText bytes := by
  cases ending <;> simp [IsAt]

/-- The first line quits, or the end is where it is for the other lines. -/
theorem isAt_cons_cons_iff {flow : Flow} {flows : List Flow} :
    ending.IsAt (bytes :: rest) (flow :: flows) ↔
      (flow = .quit ∧ flows = [] ∧ ending = .quit) ∨
        (flow = .proceed ∧ ending.IsAt rest flows) := by
  cases ending with
  | quit =>
      constructor
      · rintro ⟨before, shape, proceeds⟩
        cases before with
        | nil =>
            cases shape
            exact .inl ⟨rfl, rfl, rfl⟩
        | cons first later =>
            cases shape
            obtain ⟨isFirst, others⟩ := List.forall_mem_cons.1 proceeds
            exact .inr ⟨isFirst, later, rfl, others⟩
      · rintro (⟨rfl, rfl, -⟩ | ⟨rfl, before, rfl, proceeds⟩)
        · exact ⟨[], rfl, nofun⟩
        · exact ⟨.proceed :: before, rfl,
            List.forall_mem_cons.2 ⟨rfl, proceeds⟩⟩
  | endOfInput =>
      simp [IsAt, and_left_comm]
  | invalidInput =>
      simp [IsAt, and_assoc]

end DialogueEnd

namespace Shell

/--
The texts are those of the first lines.  Handled one after the other they take
the shell to its last state, and the answers to them say that the dialogue ends
there.
-/
structure Course
    (rounds : Nat)
    (files : Files)
    (lines : List (List UInt8))
    (shell : Shell)
    (texts : List String)
    (ending : DialogueEnd)
    (last : Shell) : Prop where
  read : List.Forall₂ StandsForLine (lines.take texts.length) texts
  answered :
    ∃ flows,
      shell.after rounds (texts.map (TypedLine.mk files)) =
          some (flows, last) ∧
        ending.IsAt lines flows

/-- Every line answered has an answer of its own. -/
theorem length_of_after
    {rounds : Nat}
    {lines : List TypedLine}
    {shell last : Shell}
    {flows : List Flow}
    (answered : shell.after rounds lines = some (flows, last)) :
    flows.length = lines.length := by
  induction lines generalizing shell flows with
  | nil =>
      cases answered
      rfl
  | cons typed later hypothesis =>
      obtain ⟨flow, next, rest, -, goesOn, rfl⟩ :=
        exists_of_after_cons answered
      rw [List.length_cons, List.length_cons, hypothesis goesOn]

/-- The first line is answered, and then the others are. -/
theorem after_cons
    {rounds : Nat}
    {typed : TypedLine}
    {later : List TypedLine}
    {shell next last : Shell}
    {flow : Flow}
    {flows : List Flow}
    (handled :
      shell.handleLine rounds typed.files typed.line = some (flow, next))
    (goesOn : next.after rounds later = some (flows, last)) :
    shell.after rounds (typed :: later) = some (flow :: flows, last) := by
  rw [after, handled]
  exact Option.map_eq_some_iff.mpr ⟨_, goesOn, rfl⟩

/--
The texts are those of the first lines, and the shell goes on behind each of
them.  The next line is a text too, but what it starts does not finish.
-/
structure StallsAt
    (rounds : Nat)
    (files : Files)
    (lines : List (List UInt8))
    (shell : Shell)
    (texts : List String)
    (text : String) : Prop where
  read :
    List.Forall₂ StandsForLine (lines.take (texts.length + 1))
      (texts ++ [text])
  unfinished :
    ∃ reached,
      shell.after rounds (texts.map (TypedLine.mk files)) =
          some (List.replicate texts.length .proceed, reached) ∧
        reached.handleLine rounds files text = none

namespace Course

variable {rounds : Nat}
variable {files : Files}
variable {bytes : List UInt8}
variable {rest : List (List UInt8)}
variable {shell last : Shell}
variable {text : String}
variable {texts : List String}
variable {ending : DialogueEnd}

/-- Over no lines, the dialogue is at its end at once. -/
theorem nil_iff :
    shell.Course rounds files [] texts ending last ↔
      texts = [] ∧ ending = .endOfInput ∧ last = shell := by
  constructor
  · rintro ⟨read, flows, answered, isAt⟩
    rw [List.take_nil] at read
    cases read
    cases answered
    exact ⟨rfl, DialogueEnd.isAt_nil_nil_iff.1 isAt, rfl⟩
  · rintro ⟨rfl, rfl, rfl⟩
    exact ⟨.nil, [], rfl, DialogueEnd.isAt_nil_nil_iff.2 rfl⟩

/-- In front of a line that is no text, the dialogue ends. -/
theorem invalid_iff (invalid : ¬IsText bytes) :
    shell.Course rounds files (bytes :: rest) texts ending last ↔
      texts = [] ∧ ending = .invalidInput ∧ last = shell := by
  constructor
  · rintro ⟨read, flows, answered, isAt⟩
    cases texts with
    | nil =>
        cases answered
        exact ⟨rfl, (DialogueEnd.isAt_cons_nil_iff.1 isAt).1, rfl⟩
    | cons first later =>
        cases read with
        | cons standsFor _ =>
            exact absurd standsFor.isText invalid
  · rintro ⟨rfl, rfl, rfl⟩
    exact ⟨.nil, [], rfl, DialogueEnd.isAt_cons_nil_iff.2 ⟨rfl, invalid⟩⟩

/-- A line that is a text is handled; behind it the dialogue ends or goes on. -/
theorem cons_iff (standsFor : StandsForLine bytes text) :
    shell.Course rounds files (bytes :: rest) texts ending last ↔
      ∃ flow next later,
        shell.handleLine rounds files text = some (flow, next) ∧
          texts = text :: later ∧
          ((flow = .quit ∧ later = [] ∧ ending = .quit ∧ last = next) ∨
            (flow = .proceed ∧
              next.Course rounds files rest later ending last)) := by
  constructor
  · rintro ⟨read, flows, answered, isAt⟩
    cases texts with
    | nil =>
        cases answered
        exact absurd standsFor.isText
          (DialogueEnd.isAt_cons_nil_iff.1 isAt).2
    | cons first later =>
        cases read with
        | cons alsoStandsFor readLater =>
            cases standsFor.unique alsoStandsFor
            obtain ⟨flow, next, others, handled, goesOn, rfl⟩ :=
              exists_of_after_cons answered
            refine ⟨flow, next, later, handled, rfl, ?_⟩
            rcases DialogueEnd.isAt_cons_cons_iff.1 isAt with
              ⟨quits, rfl, atQuit⟩ | ⟨proceeds, isLater⟩
            · have noneLater := length_of_after goesOn
              rw [List.length_map] at noneLater
              cases List.length_eq_zero_iff.1 noneLater.symm
              cases goesOn
              exact .inl ⟨quits, rfl, atQuit, rfl⟩
            · exact .inr ⟨proceeds, readLater, others, goesOn, isLater⟩
  · rintro ⟨flow, next, later, handled, rfl, ⟨rfl, rfl, rfl, rfl⟩ |
      ⟨rfl, readLater, flows, goesOn, isAt⟩⟩
    · exact ⟨.cons standsFor .nil, [.quit], after_cons handled rfl,
        DialogueEnd.isAt_cons_cons_iff.2 (.inl ⟨rfl, rfl, rfl⟩)⟩
    · exact ⟨.cons standsFor readLater, .proceed :: flows,
        after_cons handled goesOn,
        DialogueEnd.isAt_cons_cons_iff.2 (.inr ⟨rfl, isAt⟩)⟩

end Course

namespace StallsAt

variable {rounds : Nat}
variable {files : Files}
variable {bytes : List UInt8}
variable {rest : List (List UInt8)}
variable {shell : Shell}
variable {first text : String}
variable {texts : List String}

/-- Over no lines, nothing is left that does not finish. -/
theorem not_nil : ¬shell.StallsAt rounds files [] texts text := by
  rintro ⟨read, -⟩
  rw [List.take_nil] at read
  exact List.append_ne_nil_of_right_ne_nil _ (List.cons_ne_nil _ _)
    (List.forall₂_nil_left_iff.1 read)

/-- A line that is no text starts nothing. -/
theorem not_invalid (invalid : ¬IsText bytes) :
    ¬shell.StallsAt rounds files (bytes :: rest) texts text := by
  rintro ⟨read, -⟩
  cases texts with
  | nil =>
      exact invalid (List.forall₂_cons.1 read).1.isText
  | cons first later =>
      exact invalid (List.forall₂_cons.1 read).1.isText

/-- The first line does not finish, or a later one does not. -/
theorem exists_cons_iff (standsFor : StandsForLine bytes first) :
    (∃ texts text,
        shell.StallsAt rounds files (bytes :: rest) texts text) ↔
      shell.handleLine rounds files first = none ∨
        ∃ next,
          shell.handleLine rounds files first = some (.proceed, next) ∧
            ∃ texts text, next.StallsAt rounds files rest texts text := by
  constructor
  · rintro ⟨texts, text, read, reached, answered, unfinished⟩
    cases texts with
    | nil =>
        cases answered
        cases (List.forall₂_cons.1 read).1.unique standsFor
        exact .inl unfinished
    | cons alsoFirst later =>
        obtain ⟨alsoStandsFor, readLater⟩ := List.forall₂_cons.1 read
        cases alsoStandsFor.unique standsFor
        obtain ⟨flow, next, flows, handled, goesOn, same⟩ :=
          exists_of_after_cons answered
        rw [List.length_cons, List.replicate_succ] at same
        cases same
        exact .inr ⟨next, handled, later, text, readLater, reached, goesOn,
          unfinished⟩
  · rintro (unfinished | ⟨next, handled, texts, text, read, reached, goesOn,
      unfinished⟩)
    · exact ⟨[], first, .cons standsFor .nil, shell, rfl, unfinished⟩
    · exact ⟨first :: texts, text, .cons standsFor read, reached,
        after_cons handled goesOn, unfinished⟩

end StallsAt

end Shell

namespace Dialogue

variable {rounds : Nat}
variable {files : Files}

/-- The sink of the prompts behind as many prompts as given. -/
def prompted (prompt : String) (sink : Sink) (count : Nat) : Sink :=
  (sink.write (String.join (List.replicate count prompt))).2

/-- To prompt once more is to write the prompt first and to go on. -/
theorem prompted_succ (prompt : String) (sink : Sink) (count : Nat) :
    prompted prompt sink (count + 1) =
      prompted prompt (sink.write prompt).2 count := by
  unfold prompted
  rw [List.replicate_succ, String.join_cons, Sink.write_append_snd]

/-- To prompt once is to write the prompt. -/
theorem prompted_one (prompt : String) (sink : Sink) :
    prompted prompt sink 1 = (sink.write prompt).2 := by
  unfold prompted
  rw [List.replicate_one, String.join_cons, String.join_nil,
    String.append_empty]

/-- The first line is no text: it is not handled. -/
theorem handleLines_of_invalid
    {bytes : List UInt8}
    (invalid : ¬IsText bytes)
    (rest : List (List UInt8))
    (prompt : String)
    (sink : Sink)
    (shell : Shell) :
    handleLines rounds files (bytes :: rest) ⟨prompt, some sink, shell⟩ =
      some (.invalidInput, ⟨prompt, some (sink.write prompt).2, shell⟩) := by
  rw [handleLines, (lineText?_eq_none_iff bytes).2 invalid]
  rfl

/-- The first line is a text: it is handled, and the others unless it quits. -/
theorem handleLines_of_standsForLine
    {bytes : List UInt8}
    {text : String}
    (standsFor : StandsForLine bytes text)
    (rest : List (List UInt8))
    (prompt : String)
    (sink : Sink)
    (shell : Shell) :
    handleLines rounds files (bytes :: rest) ⟨prompt, some sink, shell⟩ =
      match shell.handleLine rounds files text with
      | none => none
      | some (.quit, next) =>
          some (.quit, ⟨prompt, some (sink.write prompt).2, next⟩)
      | some (.proceed, next) =>
          handleLines rounds files rest
            ⟨prompt, some (sink.write prompt).2, next⟩ := by
  rw [handleLines, (lineText?_eq_some_iff bytes text).2 standsFor]
  rfl

/-- An ending with no line handled has shown the prompt once. -/
theorem ended_iff_of_onePrompt
    {here ending : DialogueEnd}
    (onePrompt : here.promptCount 0 = 1)
    (prompt : String)
    (sink : Sink)
    (shell : Shell)
    (after : Dialogue) :
    some (here, ⟨prompt, some (sink.write prompt).2, shell⟩) =
        some (ending, after) ↔
      ∃ (texts : List String) (last : Shell),
        (texts = [] ∧ ending = here ∧ last = shell) ∧
          after =
            ⟨prompt,
              some (prompted prompt sink (ending.promptCount texts.length)),
              last⟩ := by
  constructor
  · intro ended
    cases ended
    refine ⟨[], shell, ⟨rfl, rfl, rfl⟩, ?_⟩
    rw [List.length_nil, onePrompt, prompted_one]
  · rintro ⟨texts, last, ⟨rfl, rfl, rfl⟩, rfl⟩
    rw [List.length_nil, onePrompt, prompted_one]

/--
A dialogue ends as the course of its shell does.  The induction is on the lines,
and each of them but the last shows the prompt once more.
-/
theorem handleLines_eq_some_iff
    (lines : List (List UInt8))
    (prompt : String)
    (sink : Sink)
    (shell : Shell)
    (ending : DialogueEnd)
    (after : Dialogue) :
    handleLines rounds files lines ⟨prompt, some sink, shell⟩ =
        some (ending, after) ↔
      ∃ texts last,
        shell.Course rounds files lines texts ending last ∧
          after =
            ⟨prompt,
              some (prompted prompt sink (ending.promptCount texts.length)),
              last⟩ := by
  induction lines generalizing sink shell with
  | nil =>
      simp only [Shell.Course.nil_iff]
      exact ended_iff_of_onePrompt rfl prompt sink shell after
  | cons bytes rest hypothesis =>
      rcases exists_standsForLine_or_not bytes with ⟨text, standsFor⟩ | invalid
      · rw [handleLines_of_standsForLine standsFor]
        simp only [Shell.Course.cons_iff standsFor]
        cases handled : shell.handleLine rounds files text with
        | none =>
            constructor
            · nofun
            · rintro ⟨texts, last, ⟨flow, next, later, nothing, -⟩, -⟩
              cases nothing
        | some answer =>
            obtain ⟨flow, next⟩ := answer
            cases flow with
            | quit =>
                constructor
                · intro ended
                  cases ended
                  refine ⟨[text], next, ⟨.quit, next, [], rfl, rfl,
                    .inl ⟨rfl, rfl, rfl, rfl⟩⟩, ?_⟩
                  rw [List.length_singleton, DialogueEnd.promptCount,
                    prompted_one]
                · rintro ⟨texts, last, ⟨flow, _, later, same, rfl,
                    ⟨-, rfl, rfl, rfl⟩ | ⟨rfl, -⟩⟩, rfl⟩
                  · cases same
                    rw [List.length_singleton, DialogueEnd.promptCount,
                      prompted_one]
                  · cases same
            | proceed =>
                rw [hypothesis]
                constructor
                · rintro ⟨later, last, course, rfl⟩
                  refine ⟨text :: later, last, ⟨.proceed, next, later, rfl,
                    rfl, .inr ⟨rfl, course⟩⟩, ?_⟩
                  rw [List.length_cons, DialogueEnd.promptCount_succ,
                    prompted_succ]
                · rintro ⟨texts, last, ⟨flow, _, later, same, rfl,
                    ⟨rfl, -⟩ | ⟨rfl, course⟩⟩, rfl⟩
                  · cases same
                  · cases same
                    refine ⟨later, last, course, ?_⟩
                    rw [List.length_cons, DialogueEnd.promptCount_succ,
                      prompted_succ]
      · rw [handleLines_of_invalid invalid]
        simp only [Shell.Course.invalid_iff invalid]
        exact ended_iff_of_onePrompt rfl prompt sink shell after

/-- Without an ending there is a line that was handled and does not finish. -/
theorem handleLines_eq_none_iff
    (lines : List (List UInt8))
    (prompt : String)
    (sink : Sink)
    (shell : Shell) :
    handleLines rounds files lines ⟨prompt, some sink, shell⟩ = none ↔
      ∃ texts text, shell.StallsAt rounds files lines texts text := by
  induction lines generalizing sink shell with
  | nil =>
      constructor
      · nofun
      · rintro ⟨texts, text, stalls⟩
        exact (Shell.StallsAt.not_nil stalls).elim
  | cons bytes rest hypothesis =>
      rcases exists_standsForLine_or_not bytes with ⟨text, standsFor⟩ | invalid
      · rw [handleLines_of_standsForLine standsFor,
          Shell.StallsAt.exists_cons_iff standsFor]
        cases handled : shell.handleLine rounds files text with
        | none =>
            simp
        | some answer =>
            obtain ⟨flow, next⟩ := answer
            cases flow with
            | quit =>
                simp
            | proceed =>
                simpa using hypothesis (sink.write prompt).2 next
      · rw [handleLines_of_invalid invalid]
        constructor
        · nofun
        · rintro ⟨texts, text, stalls⟩
          exact (stalls.not_invalid invalid).elim

/-- Where a dialogue ends, and its shell there. -/
def outcome (answer : Option (DialogueEnd × Dialogue)) :
    Option (DialogueEnd × Shell) :=
  answer.map fun (ending, after) => (ending, after.shell)

/-- What is shown as a prompt, and where, makes no difference to the shell. -/
theorem outcome_handleLines_eq
    (lines : List (List UInt8))
    (prompt otherPrompt : String)
    (sink otherSink : Sink)
    (shell : Shell) :
    outcome (handleLines rounds files lines ⟨prompt, some sink, shell⟩) =
      outcome
        (handleLines rounds files lines
          ⟨otherPrompt, some otherSink, shell⟩) := by
  induction lines generalizing sink otherSink shell with
  | nil =>
      rfl
  | cons bytes rest hypothesis =>
      rcases exists_standsForLine_or_not bytes with ⟨text, standsFor⟩ | invalid
      · rw [handleLines_of_standsForLine standsFor,
          handleLines_of_standsForLine standsFor]
        cases shell.handleLine rounds files text with
        | none =>
            rfl
        | some answer =>
            obtain ⟨flow, next⟩ := answer
            cases flow with
            | quit =>
                rfl
            | proceed =>
                exact hypothesis _ _ next
      · rw [handleLines_of_invalid invalid, handleLines_of_invalid invalid]
        rfl

/--
A dialogue with a sink for its prompts is the course of its shell over the
lines of the input, and shows the prompt as often as that takes.  It has no end
only if what one of the lines starts does not finish.  Neither the prompt nor
what its sink takes of it makes a difference to where the dialogue ends and how
it leaves the shell.
-/
theorem converse_spec
    (rounds : Nat)
    (files : Files)
    (input : ByteArray)
    (prompt : String)
    (sink : Sink)
    (shell : Shell) :
    ∃ lines,
      Text.CutInto (· == 10) input.toList lines ∧
        (∀ ending after,
          converse rounds files input ⟨prompt, some sink, shell⟩ =
              some (ending, after) ↔
            ∃ texts last,
              shell.Course rounds files lines texts ending last ∧
                after =
                  ⟨prompt,
                    some
                      (prompted prompt sink
                        (ending.promptCount texts.length)),
                    last⟩) ∧
        (converse rounds files input ⟨prompt, some sink, shell⟩ = none ↔
          ∃ texts text, shell.StallsAt rounds files lines texts text) ∧
        ∀ otherPrompt otherSink,
          outcome (converse rounds files input ⟨prompt, some sink, shell⟩) =
            outcome
              (converse rounds files input
                ⟨otherPrompt, some otherSink, shell⟩) := by
  refine ⟨inputLines input, ?_, ?_, ?_, ?_⟩
  · exact (Text.cutInto_iff_eq_cutAfter _ _ _).2 rfl
  · exact handleLines_eq_some_iff (inputLines input) prompt sink shell
  · exact handleLines_eq_none_iff (inputLines input) prompt sink shell
  · intro otherPrompt otherSink
    exact outcome_handleLines_eq (inputLines input) prompt otherPrompt sink
      otherSink shell

end Dialogue

end OwlScript
