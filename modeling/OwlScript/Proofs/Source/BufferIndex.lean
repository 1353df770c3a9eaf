import OwlScript.Proofs.Source.IndexedText

namespace OwlScript

/-!
# Buffers as an index

A buffer knows its place by line and column, and still behaves as an index into
the characters of its lines does.  The relation is that the place has the index
as its number of characters in front; every action keeps it, and everything
that is seen of a buffer follows from it.
-/

namespace Buffer

/-- Carries out an action on a buffer. -/
def perform : SourceAction → Buffer → SourceAnswer × Buffer
  | .loadFile files path, buffer =>
      let (loaded, after) := buffer.loadFile files path
      (.loaded loaded, after)
  | .loadText text, buffer => (.moved, buffer.loadText text)
  | .advance, buffer =>
      let (current, after) := buffer.advance
      (.character current, after)
  | .retreat, buffer =>
      match buffer.retreat with
      | (.ok (), after) => (.moved, after)
      | (.error failure, after) => (.failed failure, after)

/-- The buffer stands at the index of a text. -/
structure StandsAt (buffer : Buffer) (text : IndexedText) : Prop where
  lines : buffer.lines = text.lines
  isIn : buffer.place.IsIn text.lines
  index : buffer.place.index text.lines = text.index
  current : buffer.current = buffer.place.value text.lines

/-- A buffer that moves to a place stands at the index of the place. -/
theorem standsAt_moved
    {buffer : Buffer}
    {text : IndexedText}
    {place : Place}
    (lines : buffer.lines = text.lines)
    (isIn : place.IsIn text.lines)
    (index : place.index text.lines = text.index) :
    (buffer.moved place).StandsAt text where
  lines := lines
  isIn := isIn
  index := index
  current := congrArg place.value lines

/-- Whatever was loaded before, a load goes to the first character. -/
theorem standsAt_commit (buffer : Buffer) (lines : List Line) :
    (buffer.commit lines).StandsAt (.ofLines lines) := by
  obtain ⟨isIn, index⟩ :=
    @Place.firstFrom_spec lines 0 (Nat.zero_le lines.length)
  exact standsAt_moved rfl isIn index

/--
Loading a file says whether it can be read and stands at its first character.
-/
theorem loadFile_spec
    (files : Files)
    (path : String)
    (buffer : Buffer) :
    (buffer.loadFile files path).1 = (files path).isSome ∧
      (buffer.loadFile files path).2.StandsAt
        (.ofLines (IndexedText.linesOfFile files path)) := by
  unfold loadFile LineStore.load IndexedText.linesOfFile
  cases files path with
  | none =>
      exact ⟨rfl, standsAt_commit _ []⟩
  | some content =>
      exact ⟨rfl, standsAt_commit _ (linesOfContent content)⟩

namespace StandsAt

variable {buffer : Buffer}
variable {text : IndexedText}

/-- Only the lines and the index of the text count. -/
theorem of_index
    {other : IndexedText}
    (stands : buffer.StandsAt text)
    (index : other.index = text.index)
    (lines : other.lines = text.lines) :
    buffer.StandsAt other := by
  obtain ⟨otherLines, otherIndex, otherBound⟩ := other
  cases index
  cases lines
  exact stands

/-- With nothing up to the marker, the buffer stands at the marker already. -/
theorem atMarker
    (stands : buffer.StandsAt text)
    (nothing : text.upToMarker = []) :
    buffer.StandsAt text.atMarker := by
  refine stands.of_index ?_ rfl
  rw [IndexedText.index_atMarker, nothing]
  rfl

/-- At the first index the buffer stands as on the lines alone. -/
theorem ofLines (stands : buffer.StandsAt text) (first : text.index = 0) :
    buffer.StandsAt (.ofLines text.lines) :=
  stands.of_index first.symm rfl

/-- The character at the index with its position is the one at the place. -/
theorem located?_eq (stands : buffer.StandsAt text) :
    (locateLines text.lines)[text.index]? =
      buffer.place.located? text.lines := by
  rw [Place.located?_eq_getElem? _ stands.isIn, stands.index]

/-- The current character is the one at the index. -/
theorem current_eq (stands : buffer.StandsAt text) :
    buffer.current = text.current := by
  unfold IndexedText.current IndexedText.characters
  rw [stands.current, ← map_value_locateLines, List.getElem?_map,
    stands.located?_eq]
  cases buffer.place with
  | character line column =>
      rfl
  | ended =>
      rfl

/-- One step of the buffer is one step of the index. -/
theorem advance (stands : buffer.StandsAt text) :
    buffer.advance.2.StandsAt text.advance := by
  obtain ⟨isIn, index⟩ := Place.next_spec buffer.place stands.isIn
  unfold Buffer.advance
  rw [stands.lines]
  refine standsAt_moved stands.lines isIn (index.trans ?_)
  rw [stands.index]
  rfl

/-- Moving back fails at the first character, where it changes nothing. -/
theorem retreat_spec (stands : buffer.StandsAt text) :
    (text.index = 0 ∧
        buffer.retreat = (.error .bufferUnderflow, buffer)) ∨
      (text.index ≠ 0 ∧
        ∃ back, buffer.retreat = (.ok (), back) ∧
          back.StandsAt text.retreat) := by
  unfold Buffer.retreat
  rw [stands.lines]
  rcases Place.previous?_spec buffer.place stands.isIn with
      ⟨first, index⟩ | ⟨line, column, found, isIn, index⟩
  · rw [first]
    exact Or.inl ⟨stands.index.symm.trans index, rfl⟩
  · rw [found]
    rw [stands.index] at index
    refine Or.inr ⟨by omega, _, rfl, standsAt_moved stands.lines isIn ?_⟩
    exact Nat.eq_sub_of_add_eq index

/-- One action of a buffer is the same action of its index. -/
theorem perform
    (action : SourceAction)
    (buffer : Buffer)
    (text : IndexedText)
    (stands : buffer.StandsAt text) :
    (buffer.perform action).1 = (text.perform action).1 ∧
      (buffer.perform action).2.StandsAt (text.perform action).2 := by
  cases action with
  | loadFile files path =>
      obtain ⟨loaded, atStart⟩ := loadFile_spec files path buffer
      exact ⟨congrArg SourceAnswer.loaded loaded, atStart⟩
  | loadText text =>
      exact ⟨rfl, standsAt_commit _ [Line.ofText text]⟩
  | advance =>
      have after := stands.advance
      exact ⟨congrArg SourceAnswer.character after.current_eq, after⟩
  | retreat =>
      unfold Buffer.perform IndexedText.perform
      dsimp only
      rcases stands.retreat_spec with
          ⟨isFirst, failed⟩ | ⟨notFirst, back, moved, standsBack⟩
      · rw [failed, if_pos isFirst]
        exact ⟨rfl, stands⟩
      · rw [moved, if_neg notFirst]
        exact ⟨rfl, standsBack⟩

/-- The end seems reached where the current character is the marker. -/
theorem looksEnded_iff (stands : buffer.StandsAt text) :
    buffer.looksEnded = true ↔ text.current = endMarker := by
  rw [← stands.current_eq]
  exact beq_iff_eq

/-- What is at the index says whether the end seems reached. -/
theorem looksEnded_eq (stands : buffer.StandsAt text) :
    buffer.looksEnded = text.view.looksEnded := by
  rw [Bool.eq_iff_iff, stands.looksEnded_iff, text.current_eq_endMarker_iff]
  exact decide_eq_true_iff.symm

/-- The position is that of the character at the index. -/
theorem position?_eq (stands : buffer.StandsAt text) :
    buffer.position? = text.position? := by
  unfold IndexedText.position? Buffer.position?
  rw [stands.located?_eq]
  cases buffer.place with
  | character line column =>
      rfl
  | ended =>
      rfl

/-- The line is the one that the index is on. -/
theorem lineNumber_eq (stands : buffer.StandsAt text) :
    buffer.lineNumber = text.view.lineNumber := by
  unfold IndexedText.view
  rw [← stands.position?_eq]
  unfold Buffer.position? Buffer.lineNumber
  cases buffer.place with
  | character line column =>
      rfl
  | ended =>
      exact congrArg List.length stands.lines

/-- The end position is that of the text. -/
theorem endPosition_eq (stands : buffer.StandsAt text) :
    buffer.endPosition = text.endPosition := by
  have searched := @Place.lastBefore?_spec text.lines text.lines.length
  rw [countBefore_length] at searched
  unfold Buffer.endPosition IndexedText.endPosition
  rw [stands.lines, List.getLast?_eq_getElem?, length_locateLines]
  rcases searched with ⟨nothing, empty⟩ | ⟨line, column, found, isIn, index⟩
  · have noCharacter :
        (locateLines text.lines)[(charactersOf text.lines).length - 1]? =
          none := by
      apply List.getElem?_eq_none
      have noLength := (length_locateLines text.lines).trans empty
      exact Nat.le_trans (Nat.le_of_eq noLength) (Nat.zero_le _)
    rw [nothing, noCharacter]
  · have last := Place.located?_eq_getElem? (.character line column) isIn
    rw [← Nat.eq_sub_of_add_eq index, ← last, found]
    rfl

/-- The length of the buffer is that of the text. -/
theorem length_eq (stands : buffer.StandsAt text) :
    buffer.length = text.characters.length := by
  unfold Buffer.length IndexedText.characters
  rw [stands.lines]
  induction text.lines with
  | nil =>
      rfl
  | cons line rest hypothesis =>
      rw [List.foldr_cons, hypothesis]
      exact List.length_append.symm

/-- Reading on passes the characters in front of the next marker. -/
theorem drainFor_spec
    (rounds : Nat)
    (stands : buffer.StandsAt text)
    (enough : text.characters.length ≤ text.index + rounds) :
    (buffer.drainFor rounds).1 = text.upToMarker ∧
      (buffer.drainFor rounds).2.StandsAt text.atMarker := by
  induction rounds generalizing buffer text with
  | zero =>
      have atEnd : text.index = text.characters.length :=
        Nat.le_antisymm text.index_le enough
      have ended := text.current_eq_endMarker_iff.mpr (Or.inl atEnd)
      have nothing := IndexedText.upToMarker_of_current_eq ended
      exact ⟨nothing.symm, stands.atMarker nothing⟩
  | succ rounds hypothesis =>
      unfold drainFor
      by_cases ended : text.current = endMarker
      · have nothing := IndexedText.upToMarker_of_current_eq ended
        rw [if_pos (stands.looksEnded_iff.mpr ended)]
        exact ⟨nothing.symm, stands.atMarker nothing⟩
      · obtain ⟨inside, read⟩ := IndexedText.upToMarker_of_current_ne ended
        have next : text.advance.index = text.index + 1 :=
          Nat.min_eq_left inside
        have enoughLater :
            text.advance.characters.length ≤
              text.advance.index + rounds := by
          have same : text.advance.characters = text.characters := rfl
          rw [same, next]
          omega
        obtain ⟨passed, stopped⟩ := hypothesis stands.advance enoughLater
        rw [if_neg fun looks => ended (stands.looksEnded_iff.mp looks)]
        constructor
        · rw [read, ← passed, stands.current_eq]
        · refine stopped.of_index ?_ rfl
          rw [IndexedText.index_atMarker, IndexedText.index_atMarker, read,
            next, List.length_cons]
          omega

/-- Moving back until that fails reaches every character passed. -/
theorem rewindFor_spec
    (rounds : Nat)
    (stands : buffer.StandsAt text)
    (enough : text.index ≤ rounds) :
    (buffer.rewindFor rounds).1 = text.passed.reverse ∧
      (buffer.rewindFor rounds).2.StandsAt (.ofLines text.lines) := by
  induction rounds generalizing buffer text with
  | zero =>
      have first := Nat.eq_zero_of_le_zero enough
      refine ⟨?_, stands.ofLines first⟩
      unfold IndexedText.passed
      rw [first]
      rfl
  | succ rounds hypothesis =>
      unfold rewindFor
      rcases stands.retreat_spec with
          ⟨first, failed⟩ | ⟨notFirst, back, moved, standsBack⟩
      · rw [failed]
        refine ⟨?_, stands.ofLines first⟩
        unfold IndexedText.passed
        rw [first]
        rfl
      · obtain ⟨reached, atStart⟩ :=
          hypothesis standsBack (Nat.sub_le_of_le_add enough)
        rw [moved]
        refine ⟨?_, atStart⟩
        rw [IndexedText.reverse_passed_of_index_ne_zero notFirst, ← reached,
          ← standsBack.current_eq]

end StandsAt

/-- What is seen of a buffer. -/
def view (buffer : Buffer) : SourceView where
  current := buffer.current
  looksEnded := buffer.looksEnded
  position? := buffer.position?
  lineNumber := buffer.lineNumber
  endPosition := buffer.endPosition

/-- All that can be seen of the buffer is seen of the text. -/
theorem StandsAt.view_eq
    {buffer : Buffer}
    {text : IndexedText}
    (stands : buffer.StandsAt text) :
    buffer.view = text.view := by
  unfold view
  rw [stands.current_eq, stands.looksEnded_eq, stands.position?_eq,
    stands.lineNumber_eq, stands.endPosition_eq]
  rfl

/-- What can be read from a buffer on. -/
def reading (buffer : Buffer) : SourceReading where
  here := buffer.view
  drained := buffer.drain.1
  behindDrained := buffer.drain.2.view
  rewound := buffer.rewind.1
  behindRewound := buffer.rewind.2.view

/-- All that can be read from the buffer is read from the text. -/
theorem StandsAt.reading_eq
    {buffer : Buffer}
    {text : IndexedText}
    (stands : buffer.StandsAt text) :
    buffer.reading = text.reading := by
  have enough : text.characters.length ≤ text.index + buffer.length := by
    rw [stands.length_eq]
    exact Nat.le_add_left _ _
  have enoughBack : text.index ≤ buffer.length := by
    rw [stands.length_eq]
    exact text.index_le
  obtain ⟨drained, stopped⟩ := stands.drainFor_spec buffer.length enough
  obtain ⟨rewound, atStart⟩ := stands.rewindFor_spec buffer.length enoughBack
  unfold reading drain rewind
  rw [stands.view_eq, drained, stopped.view_eq, rewound, atStart.view_eq]
  rfl

/--
The place of a buffer is one of its characters or the end, and the position
that is shown is the one-based line and column of the character at the index.
-/
structure Placed (buffer : Buffer) (text : IndexedText) : Prop where
  inBounds :
    ∀ line column,
      buffer.place = .character line column →
        ∃ here, buffer.lines[line]? = some here ∧ column < here.length
  position :
    ∀ position,
      buffer.position? = some position →
        ∃ line column,
          position = ⟨line + 1, column + 1⟩ ∧
            column < lengthOfLine text.lines line ∧
            (charactersOf (text.lines.take line)).length + column =
              text.index

/-- The buffer stands within the bounds of its lines, where the index says. -/
theorem StandsAt.placed
    {buffer : Buffer}
    {text : IndexedText}
    (stands : buffer.StandsAt text) :
    buffer.Placed text where
  inBounds := by
    intro line column place
    have isIn := stands.isIn
    rw [place, ← stands.lines] at isIn
    exact exists_line_of_lt_lengthOfLine isIn
  position := by
    intro position found
    have isIn := stands.isIn
    have index := stands.index
    unfold Buffer.position? at found
    cases place : buffer.place with
    | character line column =>
        rw [place] at found isIn index
        cases found
        exact ⟨line, column, rfl, isIn, index⟩
    | ended =>
        rw [place] at found
        cases found

/-- What a history of actions, from no text on, gives back and leads to. -/
def after (actions : List SourceAction) : List SourceAnswer × Buffer :=
  SourceAction.performAll perform actions empty

/-- A new buffer stands at the first index of no lines. -/
theorem standsAt_empty : empty.StandsAt (.ofLines []) where
  lines := rfl
  isIn := trivial
  index := rfl
  current := rfl

end Buffer

end OwlScript
