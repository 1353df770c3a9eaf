import OwlScript.Proofs.Source.CursorIndex
import OwlScript.Proofs.Token.Progress
import OwlScript.Token.Scanner

namespace OwlScript

/-!
# Steps of a scanner

A scanner that walks a buffer is followed by a cursor on the same text, at the
same index.  The test for the end is not deceived by a marker in the text, and a
move back after a move on leads to the very same buffer, over the end of a line
and from the end of the text as well: two places with the same number of
characters in front are the same.
-/

namespace Place

variable {lines : List Line}

/-- Places with the same index are the same. -/
theorem eq_of_index_eq
    {first second : Place}
    (firstIsIn : first.IsIn lines)
    (secondIsIn : second.IsIn lines)
    (sameIndex : first.index lines = second.index lines) :
    first = second := by
  have located : first.located? lines = second.located? lines := by
    rw [located?_eq_getElem? first firstIsIn,
      located?_eq_getElem? second secondIsIn, sameIndex]
  cases first with
  | ended =>
      cases second with
      | ended =>
          rfl
      | character line column =>
          cases located
  | character line column =>
      cases second with
      | ended =>
          cases located
      | character otherLine otherColumn =>
          have position :=
            congrArg (Option.map SourceCharacter.position) located
          cases position
          rfl

end Place

namespace Buffer.StandsAt

variable {buffer other : Buffer}
variable {text : IndexedText}

/--
Buffers that stand at one index of one text differ in their store at most.
-/
theorem eq_of_store_eq
    (stands : buffer.StandsAt text)
    (alsoStands : other.StandsAt text)
    (sameStore : buffer.store = other.store) :
    buffer = other := by
  have samePlace : buffer.place = other.place :=
    Place.eq_of_index_eq stands.isIn alsoStands.isIn
      (stands.index.trans alsoStands.index.symm)
  have sameLines := stands.lines.trans alsoStands.lines.symm
  have sameCurrent := stands.current_eq.trans alsoStands.current_eq.symm
  cases buffer
  cases other
  cases samePlace
  cases sameLines
  cases sameCurrent
  cases sameStore
  rfl

/-- A move back undoes a move on from a character, wherever it has led. -/
theorem retreat_advance
    (stands : buffer.StandsAt text)
    (notEnded : text.index < text.characters.length) :
    buffer.advance.2.retreat = (.ok (), buffer) := by
  have index : text.advance.index = text.index + 1 :=
    Nat.min_eq_left notEnded
  rcases stands.advance.retreat_spec with
    ⟨isFirst, _⟩ | ⟨_, back, moved, standsBack⟩
  · rw [index] at isFirst
    cases isFirst
  · have sameStore : back.store = buffer.store := by
      unfold Buffer.retreat at moved
      split at moved
      · cases moved
        rfl
      · cases moved
    have here : back.StandsAt text := by
      refine standsBack.of_index ?_ rfl
      exact (Nat.sub_eq_of_eq_add index).symm
    rw [moved, here.eq_of_store_eq stands sameStore]

end Buffer.StandsAt

namespace Scanner

/-- The scanner one character on. -/
def movedOn (scanner : Scanner) : Scanner :=
  ⟨scanner.buffer.advance.2, scanner.buffer⟩

/-- The scanner stands where the cursor does, in a text of the given lines. -/
def Follows
    (lines : List Line)
    (scanner : Scanner)
    (cursor : Cursor) : Prop :=
  ∃ text : IndexedText,
    text.lines = lines ∧
      scanner.buffer.StandsAt text ∧ cursor.StandsAt text

namespace Follows

variable {lines : List Line}
variable {scanner : Scanner}
variable {cursor : Cursor}
variable {here : SourceCharacter}

/-- A scanner that moves on follows the cursor moved on. -/
theorem movedOn (follows : scanner.Follows lines cursor) :
    scanner.movedOn.Follows lines cursor.advance := by
  obtain ⟨text, sameLines, stands, cursorStands⟩ := follows
  exact ⟨text.advance, sameLines, stands.advance, cursorStands.advance⟩

/-- A new scanner on the buffer follows the same cursor. -/
theorem ofBuffer (follows : scanner.Follows lines cursor) :
    (Scanner.ofBuffer scanner.buffer).Follows lines cursor :=
  follows

/-- The buffer has the position of the current character. -/
theorem position?_eq (follows : scanner.Follows lines cursor) :
    scanner.buffer.position? = cursor.here?.map SourceCharacter.position := by
  obtain ⟨text, sameLines, stands, cursorStands⟩ := follows
  rw [stands.position?_eq, cursorStands.here?_eq]
  rfl

/-- The end is where the cursor has nothing ahead, and nowhere else. -/
theorem atEnd_eq (follows : scanner.Follows lines cursor) :
    scanner.atEnd = cursor.here?.isNone := by
  unfold atEnd
  rw [follows.position?_eq]
  obtain ⟨text, sameLines, stands, cursorStands⟩ := follows
  cases isHere : cursor.here? with
  | some here =>
      exact Bool.and_false _
  | none =>
      have atMarker : cursor.current = endMarker := by
        rw [Cursor.current, isHere]
      rw [cursorStands.current_eq] at atMarker
      rw [stands.looksEnded_iff.2 atMarker]
      rfl

/-- The buffer has the current character. -/
theorem current_eq
    (follows : scanner.Follows lines cursor)
    (isHere : cursor.here? = some here) :
    scanner.buffer.current = here.value := by
  obtain ⟨text, sameLines, stands, cursorStands⟩ := follows
  rw [stands.current_eq, ← cursorStands.current_eq, Cursor.current, isHere]

/-- The buffer counts the lines from zero, the cursor from one. -/
theorem lineNumber_succ
    (follows : scanner.Follows lines cursor)
    (isHere : cursor.here? = some here) :
    scanner.buffer.lineNumber + 1 = here.position.line := by
  have position := follows.position?_eq
  rw [isHere] at position
  unfold Buffer.position? at position
  unfold Buffer.lineNumber
  cases place : scanner.buffer.place with
  | character line column =>
      rw [place] at position
      exact congrArg Position.line (Option.some.inj position)
  | ended =>
      rw [place] at position
      cases position

/-- The end positions agree. -/
theorem endPosition_eq (follows : scanner.Follows lines cursor) :
    scanner.buffer.endPosition = cursor.endPosition := by
  obtain ⟨text, sameLines, stands, cursorStands⟩ := follows
  have view := congrArg SourceView.endPosition cursorStands.view_eq
  rw [stands.endPosition_eq]
  exact view.symm

/-- A round for each of the characters ahead is fewer than there are. -/
theorem length_ahead_lt_rounds (follows : scanner.Follows lines cursor) :
    cursor.ahead.length < scanner.rounds := by
  obtain ⟨text, sameLines, stands, cursorStands⟩ := follows
  have ahead := congrArg List.length cursorStands.ahead_eq
  rw [List.length_map, IndexedText.ahead, List.length_drop] at ahead
  unfold rounds
  rw [stands.length_eq]
  omega

/-- Both see whether the current character is on a line, and which it is. -/
theorem current_of_isOnLine
    (follows : scanner.Follows lines cursor)
    (line : Nat) :
    (if scanner.isOnLine line then some scanner.buffer.current else none) =
      cursor.hereOnLine? (line + 1) := by
  unfold isOnLine Cursor.hereOnLine?
  rw [follows.atEnd_eq]
  cases isHere : cursor.here? with
  | none =>
      rfl
  | some here =>
      dsimp only
      rw [follows.current_eq isHere, ← follows.lineNumber_succ isHere]
      simp

end Follows

end Scanner

/-! ### Single steps -/

namespace Scans

variable {lines : List Line}
variable {scanner : Scanner}
variable {cursor : Cursor}
variable {here : SourceCharacter}

/-- Two scans in a row go on only if the first succeeds. -/
theorem bind_apply
    (first : Scans α)
    (second : α → Scans β)
    (scanner : Scanner) :
    (first >>= second) scanner =
      match first scanner with
      | .ok value after => second value after
      | .error stop after => .error stop after := by
  simp only [bind, EStateM.bind]
  cases first scanner <;> rfl

/-- A scan that asks for the scanner goes on with it. -/
theorem get_bind_apply (second : Scanner → Scans α) (scanner : Scanner) :
    (get >>= second) scanner = second scanner scanner :=
  rfl

/-- Moving on gives the next character. -/
theorem moveOn_apply (scanner : Scanner) :
    moveOn scanner = .ok scanner.movedOn.buffer.current scanner.movedOn :=
  rfl

/-- Moving on gives the next character if it is on the same line. -/
theorem moveOnLine_apply
    (follows : scanner.Follows lines cursor)
    (line : Nat) :
    moveOnLine line scanner =
      .ok (cursor.advance.hereOnLine? (line + 1)) scanner.movedOn := by
  rw [moveOnLine, bind_apply, moveOn_apply,
    ← follows.movedOn.current_of_isOnLine]
  dsimp only
  rw [get_bind_apply]
  split <;> rfl

/-- A move back leads to the very buffer that was moved on from a character. -/
theorem moveBack_movedOn
    (follows : scanner.Follows lines cursor)
    (isHere : cursor.here? = some here) :
    moveBack scanner.movedOn = .ok () (Scanner.ofBuffer scanner.buffer) := by
  obtain ⟨text, sameLines, stands, cursorStands⟩ := follows
  have notEnded : text.index < text.characters.length := by
    rw [cursorStands.here?_eq] at isHere
    have inside := (List.getElem?_eq_some_iff.1 isHere).1
    rwa [length_locateLines] at inside
  have moved : scanner.movedOn.buffer.retreat = (.ok (), scanner.buffer) :=
    stands.retreat_advance notEnded
  rw [moveBack, get_bind_apply, moved]
  dsimp only
  have isBefore : scanner.buffer = scanner.movedOn.before := rfl
  rw [if_pos isBefore]
  rfl

end Scans

end OwlScript
