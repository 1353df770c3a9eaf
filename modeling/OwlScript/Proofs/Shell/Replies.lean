import OwlScript.Shell.Session

namespace OwlScript

/-!
# Replies of a shell

The reply of a shell to a line is what the line adds to its output.  A shell
that splits lines at single spaces finds the words of a line as they were
typed, and the reply to a command is what the command writes and, if it fails,
the line that reports the failure.
-/

namespace Text

variable {α : Type}
variable {separates : α → Bool}

/-- A sequence without separating elements is one piece. -/
theorem splitAt_of_noneSeparates
    {sequence : List α}
    (noneSeparates : ∀ element ∈ sequence, separates element = false) :
    splitAt separates sequence = [sequence] := by
  induction sequence with
  | nil =>
      rfl
  | cons first rest hypothesis =>
      obtain ⟨firstStays, restStay⟩ := List.forall_mem_cons.1 noneSeparates
      have pieces := hypothesis restStay
      simp only [splitAt] at pieces
      simp [splitAt, firstStays, pieces]

/-- What stands in front of the first separating element is a piece. -/
theorem splitAt_append_cons
    {front : List α}
    (noneSeparates : ∀ element ∈ front, separates element = false)
    {separator : α}
    (isSeparator : separates separator = true)
    (rest : List α) :
    splitAt separates (front ++ separator :: rest) =
      front :: splitAt separates rest := by
  induction front with
  | nil =>
      simp [splitAt, isSeparator]
  | cons first front hypothesis =>
      obtain ⟨firstStays, restStay⟩ := List.forall_mem_cons.1 noneSeparates
      have pieces := hypothesis restStay
      simp only [splitAt] at pieces
      simp [splitAt, firstStays, pieces]

end Text

namespace SplitRule

/-- Two words with one space between them are found again. -/
theorem split_literalSpace
    {verb argument : String}
    (verbIsWord : ' ' ∉ verb.toList)
    (argumentIsWord : ' ' ∉ argument.toList) :
    SplitRule.literalSpace.split (verb ++ " " ++ argument) =
      [verb, argument] := by
  have stays
      {word : String}
      (isWord : ' ' ∉ word.toList) :
      ∀ element ∈ word.toList, (element == ' ') = false := by
    intro element member
    rw [beq_eq_false_iff_ne]
    rintro rfl
    exact isWord member
  have characters :
      (verb ++ " " ++ argument).toList =
        verb.toList ++ ' ' :: argument.toList := by
    simp
  have pieces :=
    Text.splitAt_append_cons (stays verbIsWord) (beq_self_eq_true ' ')
      argument.toList
  rw [Text.splitAt_of_noneSeparates (stays argumentIsWord)] at pieces
  simp only [split, wordsBetween, characters, pieces, List.map_cons,
    List.map_nil, String.ofList_toList]

end SplitRule

namespace Command

/-- A path that is not empty makes a load. -/
theorem parse_load
    {path : String}
    (notEmpty : path ≠ "") :
    parse ["load", path] = .ok (some (.load path)) := by
  have isArgument : argument? ["load", path] = some path := by
    simp [argument?, notEmpty]
  have isVerb : ["load", path].all String.isEmpty = false := rfl
  simp only [parse, isVerb, isArgument]
  rfl

end Command

namespace Shell

/-- The shell goes on after the line and has written the reply. -/
structure Replies
    (rounds : Nat)
    (files : Files)
    (shell : Shell)
    (line : String)
    (reply : ByteArray)
    (next : Shell) : Prop where
  handled : shell.handleLine rounds files line = some (.proceed, next)
  delivered : next.output.delivered = shell.output.delivered ++ reply

section Replies

variable {rounds : Nat}
variable {files : Files}
variable {shell next : Shell}
variable {line : String}
variable {command : Command}
variable {reply : ByteArray}

/-- A command that completes and goes on replies with what it has written. -/
theorem Replies.of_completed
    (parsed : Command.parse (shell.rule.split line) = .ok (some command))
    (performed : shell.perform rounds files command = .completed next)
    (goesOn : flowAfter command = .proceed)
    (delivered : next.output.delivered = shell.output.delivered ++ reply) :
    shell.Replies rounds files line reply next where
  handled := by
    simp only [handleLine, parsed, performed, goesOn]
  delivered := delivered

/-- A failure is reported behind what has been written before it. -/
theorem Replies.of_failed
    {failure : Failure}
    (parsed : Command.parse (shell.rule.split line) = .ok (some command))
    (performed : shell.perform rounds files command = .failed failure next)
    (unlimited : next.output.room = none)
    (delivered : next.output.delivered = shell.output.delivered ++ reply) :
    shell.Replies rounds files line (reply ++ (reportLine failure).toUTF8)
      (next.report failure) where
  handled := by
    simp only [handleLine, parsed, performed]
  delivered := by
    simp only [report, Sink.write_of_unlimited unlimited, delivered,
      ByteArray.append_assoc]

/-- A command that only writes has the text as its reply. -/
theorem Replies.of_write
    {text : String}
    (parsed : Command.parse (shell.rule.split line) = .ok (some command))
    (performed : shell.perform rounds files command = shell.write text)
    (goesOn : flowAfter command = .proceed)
    (unlimited : shell.output.room = none) :
    ∃ next, shell.Replies rounds files line text.toUTF8 next := by
  rcases shell with ⟨rule, script, interpreter, output⟩
  simp only [write, deliver, Sink.write_of_unlimited unlimited] at performed
  exact ⟨_, .of_completed parsed performed goesOn rfl⟩

end Replies

end Shell

end OwlScript
