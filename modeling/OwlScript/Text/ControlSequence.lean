namespace OwlScript.Text

/-!
# Control sequences

A text may hold sequences that a terminal obeys instead of showing them.  Where
no terminal reads a text, these sequences and all other controls are left out;
what remains is its plain form.  Characters beyond ASCII are always shown
outside a sequence.

A sequence begins with an escape.  Most are closed by a letter, some run as a
string up to a terminator, and a new escape abandons any of them.  A sequence
that is no string can be interrupted: a control in it that only moves on to
another place is obeyed, and text is shown up to the next other control.  Then
the sequence goes on, unless a character beyond ASCII was shown meanwhile.
-/

/-- How far a sequence has come. -/
inductive SequenceState where
  /-- There is no sequence, or it is closed. -/
  | closed
  /-- Directly behind an escape. -/
  | escape
  /-- Behind an escape and the first characters of a longer sequence. -/
  | escapeIntermediate
  /-- In the parameters of a control sequence. -/
  | control
  /-- At the beginning of a device control string. -/
  | deviceEntry
  /-- In the parameters of a device control string. -/
  | deviceParameter
  /-- Behind the parameters of a device control string. -/
  | deviceIntermediate
  /-- In a string that a terminator closes. -/
  | string
  /-- In an operating system command, which a bell closes. -/
  | command
  deriving Repr, DecidableEq

/-- Whether a control only moves on to another place and so is kept. -/
def isLayout (character : Char) : Bool :=
  character == '\t' || character == '\n' ||
    character == '\x0c' || character == '\r'

/-- Whether a character outside every sequence is kept. -/
def isShown (character : Char) : Bool :=
  isLayout character ||
    (0x20 ≤ character.toNat && character.toNat != 0x7f)

/-- Whether the encoding of a character holds the byte that closes a string. -/
def holdsTerminator (character : Char) : Bool :=
  (String.utf8EncodeChar character).contains 0x9c

namespace SequenceState

/-- Whether a control inside the sequence is obeyed and not part of it. -/
def obeysControls : SequenceState → Bool
  | .escape => true
  | .escapeIntermediate => true
  | .control => true
  | _ => false

/-- The state behind an escape and the given code point. -/
def behindEscape (code : Nat) : SequenceState :=
  if 0x20 ≤ code ∧ code ≤ 0x2f then .escapeIntermediate
  else if code = 0x50 then .deviceEntry
  else if code = 0x58 ∨ code = 0x5e ∨ code = 0x5f then .string
  else if code = 0x5b then .control
  else if code = 0x5d then .command
  else if 0x30 ≤ code ∧ code ≤ 0x7e then .closed
  else .escape

/-- The state behind a character that belongs to the sequence. -/
def behind (state : SequenceState) (character : Char) : SequenceState :=
  let code := character.toNat
  match state with
  | .closed => .closed
  | .escape => behindEscape code
  | .escapeIntermediate =>
      if 0x30 ≤ code ∧ code ≤ 0x7e then .closed else .escapeIntermediate
  | .control =>
      if 0x40 ≤ code ∧ code ≤ 0x7e then .closed else .control
  | .deviceEntry =>
      if 0x20 ≤ code ∧ code ≤ 0x2f then .deviceIntermediate
      else if 0x30 ≤ code ∧ code ≤ 0x3f then .deviceParameter
      else if 0x40 ≤ code ∧ code ≤ 0x7e then .string
      else .deviceEntry
  | .deviceParameter =>
      if 0x20 ≤ code ∧ code ≤ 0x2f then .deviceIntermediate
      else if 0x3c ≤ code ∧ code ≤ 0x7e then .string
      else .deviceParameter
  | .deviceIntermediate =>
      if 0x30 ≤ code ∧ code ≤ 0x7e then .string else .deviceIntermediate
  | .string => if holdsTerminator character then .closed else .string
  | .command => if code = 0x07 then .closed else .command

end SequenceState

/-- A terminal: the sequence it reads, and whether that is interrupted. -/
structure Terminal where
  sequence : SequenceState
  isInterrupted : Bool
  deriving Repr, DecidableEq

namespace Terminal

/-- A terminal without a sequence. -/
def idle : Terminal :=
  ⟨.closed, false⟩

/-- A terminal in the middle of a sequence. -/
def reading (sequence : SequenceState) : Terminal :=
  ⟨sequence, false⟩

/-- A terminal that shows text before it goes on with a sequence. -/
def interrupted (sequence : SequenceState) : Terminal :=
  ⟨sequence, true⟩

/-- Whether characters are shown and not read as part of a sequence. -/
def isShowing (terminal : Terminal) : Bool :=
  terminal.isInterrupted || terminal.sequence == .closed

/--
Whether a character is kept while text is shown, and the terminal behind it.
A character beyond ASCII gives up an interrupted sequence, and a control that
is not kept ends the interruption.
-/
def display (terminal : Terminal) (character : Char) : Bool × Terminal :=
  if 0x80 ≤ character.toNat then
    (true, idle)
  else if isShown character then
    (true, terminal)
  else
    (false, reading terminal.sequence)

/-- Whether a character is kept in a sequence, and the terminal behind it. -/
def read (sequence : SequenceState) (character : Char) : Bool × Terminal :=
  if sequence.obeysControls && isLayout character then
    (true, interrupted sequence)
  else
    (false, reading (sequence.behind character))

/--
Whether a character is kept, and the terminal behind it.  An escape opens a
new sequence anywhere, and two controls abandon any sequence.
-/
def step (terminal : Terminal) (character : Char) : Bool × Terminal :=
  if character = '\x1b' then
    (false, reading .escape)
  else if character = '\x18' ∨ character = '\x1a' then
    (false, idle)
  else if terminal.isShowing then
    terminal.display character
  else
    read terminal.sequence character

/-- The characters that the terminal keeps. -/
def kept : Terminal → List Char → List Char
  | _, [] => []
  | terminal, character :: rest =>
      let (isKept, next) := terminal.step character
      if isKept then
        character :: kept next rest
      else
        kept next rest

end Terminal

/-- A text without control sequences and other controls. -/
def plain (text : String) : String :=
  String.ofList (Terminal.idle.kept text.toList)

/-- A character that is shown is kept by an idle terminal, which stays idle. -/
theorem Terminal.step_idle_of_isShown
    {character : Char}
    (shown : isShown character = true) :
    Terminal.idle.step character = (true, Terminal.idle) := by
  have noEscape : character ≠ '\x1b' := by
    rintro rfl
    exact absurd shown (by decide)
  have noCancel : ¬(character = '\x18' ∨ character = '\x1a') := by
    rintro (rfl | rfl) <;> exact absurd shown (by decide)
  have showing : Terminal.idle.isShowing = true := rfl
  rw [Terminal.step, if_neg noEscape, if_neg noCancel, if_pos showing,
    Terminal.display]
  by_cases beyond : 0x80 ≤ character.toNat
  · rw [if_pos beyond]
  · rw [if_neg beyond, if_pos shown]

/-- Characters that are all shown are all kept. -/
theorem Terminal.kept_idle_of_all_isShown
    {characters : List Char}
    (shown : ∀ character ∈ characters, isShown character = true) :
    Terminal.idle.kept characters = characters := by
  induction characters with
  | nil => rfl
  | cons character rest hypothesis =>
      have first : Terminal.idle.step character = (true, Terminal.idle) :=
        Terminal.step_idle_of_isShown (shown character (by simp))
      have later : Terminal.idle.kept rest = rest :=
        hypothesis fun other member => shown other (by simp [member])
      simp [Terminal.kept, first, later]

end OwlScript.Text
