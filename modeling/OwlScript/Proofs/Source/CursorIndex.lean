import OwlScript.Proofs.Source.BufferIndex

namespace OwlScript

/-!
# Cursors as an index

A cursor holds the characters that it has passed and those that are ahead.  It
behaves as the index between them does, and so as a buffer with the same text.
Everything that is proved of the one way to walk a text holds of the other.
-/

namespace Cursor

/-- Carries out an action on a cursor. -/
def perform : SourceAction → Cursor → SourceAnswer × Cursor
  | .loadFile files path, _ =>
      let (loaded, after) := Cursor.ofFile files path
      (.loaded loaded, after)
  | .loadText text, _ => (.moved, Cursor.ofText text)
  | .advance, cursor => (.character cursor.advance.current, cursor.advance)
  | .retreat, cursor =>
      match cursor.retreat with
      | .ok after => (.moved, after)
      | .error failure => (.failed failure, cursor)

/-- A move back fails at the first character only, and for that reason. -/
theorem of_retreat_error
    {cursor : Cursor}
    {failure : Failure}
    (failed : cursor.retreat = .error failure) :
    cursor.place = 0 ∧ failure = .bufferUnderflow := by
  rcases cursor with ⟨lineCount, _ | ⟨previous, rest⟩, ahead⟩
  · cases failed
    exact ⟨rfl, rfl⟩
  · cases failed

/-- A move back leads to the place before, on the same lines. -/
theorem of_retreat_ok
    {cursor back : Cursor}
    (moved : cursor.retreat = .ok back) :
    back.lineCount = cursor.lineCount ∧ back.place + 1 = cursor.place := by
  rcases cursor with ⟨lineCount, _ | ⟨previous, rest⟩, ahead⟩
  · cases moved
  · cases moved
    exact ⟨rfl, rfl⟩

/-- The cursor stands at the index of a text. -/
structure StandsAt (cursor : Cursor) (text : IndexedText) : Prop where
  lineCount : cursor.lineCount = text.lines.length
  characters : cursor.characters = locateLines text.lines
  place : cursor.place = text.index

/-- A cursor on lines stands at the first index of them. -/
theorem standsAt_ofLines (lines : List Line) :
    (ofLines lines).StandsAt (.ofLines lines) where
  lineCount := rfl
  characters := characters_ofLines lines
  place := rfl

/--
Opening a file says whether it can be read and stands at its first character.
-/
theorem ofFile_spec (files : Files) (path : String) :
    (ofFile files path).1 = (files path).isSome ∧
      (ofFile files path).2.StandsAt
        (.ofLines (IndexedText.linesOfFile files path)) := by
  unfold ofFile LineStore.load IndexedText.linesOfFile
  cases files path with
  | none =>
      exact ⟨rfl, standsAt_ofLines []⟩
  | some content =>
      exact ⟨rfl, standsAt_ofLines (linesOfContent content)⟩

namespace StandsAt

variable {cursor : Cursor}
variable {text : IndexedText}

/-- The current character with its position is the one at the index. -/
theorem here?_eq (stands : cursor.StandsAt text) :
    cursor.here? = (locateLines text.lines)[text.index]? := by
  rw [here?_eq_getElem?, stands.characters, stands.place]

/-- The current character is the one at the index. -/
theorem current_eq (stands : cursor.StandsAt text) :
    cursor.current = text.current := by
  unfold Cursor.current IndexedText.current IndexedText.characters
  rw [← map_value_locateLines, List.getElem?_map, stands.here?_eq]
  cases (locateLines text.lines)[text.index]? with
  | none =>
      rfl
  | some here =>
      rfl

/-- One step of the cursor is one step of the index. -/
theorem advance (stands : cursor.StandsAt text) :
    cursor.advance.StandsAt text.advance where
  lineCount := by
    rcases cursor with ⟨lineCount, passed, _ | ⟨first, rest⟩⟩
    · exact stands.lineCount
    · exact stands.lineCount
  characters := (characters_advance cursor).trans stands.characters
  place := by
    rw [place_advance, stands.characters, stands.place, length_locateLines]
    rfl

/-- One action of a cursor is the same action of its index. -/
theorem perform
    (action : SourceAction)
    (cursor : Cursor)
    (text : IndexedText)
    (stands : cursor.StandsAt text) :
    (cursor.perform action).1 = (text.perform action).1 ∧
      (cursor.perform action).2.StandsAt (text.perform action).2 := by
  cases action with
  | loadFile files path =>
      obtain ⟨loaded, atStart⟩ := ofFile_spec files path
      exact ⟨congrArg SourceAnswer.loaded loaded, atStart⟩
  | loadText text =>
      exact ⟨rfl, standsAt_ofLines [Line.ofText text]⟩
  | advance =>
      have after := stands.advance
      exact ⟨congrArg SourceAnswer.character after.current_eq, after⟩
  | retreat =>
      unfold Cursor.perform IndexedText.perform
      dsimp only
      cases moved : cursor.retreat with
      | error failure =>
          obtain ⟨first, rfl⟩ := of_retreat_error moved
          rw [if_pos (stands.place.symm.trans first)]
          exact ⟨rfl, stands⟩
      | ok back =>
          obtain ⟨lineCount, place⟩ := of_retreat_ok moved
          rw [stands.place] at place
          have notFirst : text.index ≠ 0 := by
            omega
          rw [if_neg notFirst]
          exact ⟨rfl,
            { lineCount := lineCount.trans stands.lineCount
              characters :=
                (characters_of_retreat_eq_ok moved).trans stands.characters
              place := Nat.eq_sub_of_add_eq place }⟩

end StandsAt

/-- What is seen of a cursor. -/
def view (cursor : Cursor) : SourceView where
  current := cursor.current
  looksEnded := cursor.looksEnded
  position? := cursor.position?
  lineNumber := cursor.lineNumber
  endPosition := cursor.endPosition

/-- All that can be seen of the cursor is seen of the text. -/
theorem StandsAt.view_eq
    {cursor : Cursor}
    {text : IndexedText}
    (stands : cursor.StandsAt text) :
    cursor.view = text.view := by
  have looksEnded : cursor.looksEnded = text.view.looksEnded := by
    have asCurrent : cursor.looksEnded = (text.current == endMarker) :=
      congrArg (· == endMarker) stands.current_eq
    rw [asCurrent, Bool.eq_iff_iff, beq_iff_eq,
      text.current_eq_endMarker_iff]
    exact decide_eq_true_iff.symm
  have position : cursor.position? = text.position? :=
    congrArg (Option.map SourceCharacter.position) stands.here?_eq
  have lineNumber : cursor.lineNumber = text.view.lineNumber := by
    unfold IndexedText.view
    rw [← position]
    unfold Cursor.lineNumber Cursor.position?
    cases cursor.here? with
    | none =>
        exact stands.lineCount
    | some here =>
        rfl
  have endPosition : cursor.endPosition = text.endPosition := by
    have last :=
      (Scan.last?_eq_getLast? cursor).trans
        (congrArg List.getLast? stands.characters)
    unfold Cursor.endPosition IndexedText.endPosition
    generalize (locateLines text.lines).getLast? = ending at last ⊢
    subst last
    rfl
  unfold view
  rw [stands.current_eq, looksEnded, position, lineNumber, endPosition]
  rfl

/-- The characters ahead of a cursor are those from the index on. -/
theorem StandsAt.ahead_eq
    {cursor : Cursor}
    {text : IndexedText}
    (stands : cursor.StandsAt text) :
    cursor.ahead.map SourceCharacter.value = text.ahead := by
  have ahead : cursor.characters.drop cursor.place = cursor.ahead := by
    unfold Cursor.characters Cursor.place
    rw [← List.length_reverse, List.drop_left]
  unfold IndexedText.ahead IndexedText.characters
  rw [← ahead, stands.characters, stands.place, List.map_drop,
    map_value_locateLines]

/-- The characters behind the cursor are those in front of the index. -/
theorem StandsAt.passed_eq
    {cursor : Cursor}
    {text : IndexedText}
    (stands : cursor.StandsAt text) :
    cursor.passed.map SourceCharacter.value = text.passed.reverse := by
  have passed :
      cursor.characters.take cursor.place = cursor.passed.reverse := by
    unfold Cursor.characters Cursor.place
    rw [← List.length_reverse, List.take_left]
  unfold IndexedText.passed IndexedText.characters
  rw [← map_value_locateLines, ← List.map_take, ← stands.characters,
    ← stands.place, passed, List.map_reverse, List.reverse_reverse]

/-- What can be read from a cursor on. -/
def reading (cursor : Cursor) : SourceReading where
  here := cursor.view
  drained := cursor.drain.1.toList
  behindDrained := cursor.drain.2.view
  rewound := cursor.rewind.1.toList
  behindRewound := cursor.rewind.2.view

/-- All that can be read from the cursor is read from the text. -/
theorem StandsAt.reading_eq
    {cursor : Cursor}
    {text : IndexedText}
    (stands : cursor.StandsAt text) :
    cursor.reading = text.reading := by
  have drained : cursor.drain.1.toList = text.upToMarker := by
    unfold IndexedText.upToMarker
    rw [← stands.ahead_eq, List.takeWhile_map]
    exact String.toList_ofList
  have stopped : cursor.drain.2.StandsAt text.atMarker :=
    { lineCount := stands.lineCount
      characters :=
        (characters_advanceWhile cursor _).trans stands.characters
      place := by
        rw [IndexedText.index_atMarker, ← drained, ← stands.place]
        simp [drain, Cursor.place, advanceWhile, Nat.add_comm] }
  have rewound : cursor.rewind.1.toList = text.passed.reverse := by
    rw [← stands.passed_eq]
    exact String.toList_ofList
  have atStart : cursor.rewind.2.StandsAt (.ofLines text.lines) :=
    { lineCount := stands.lineCount
      characters := (characters_rewind cursor).trans stands.characters
      place := rfl }
  unfold reading
  rw [stands.view_eq, drained, stopped.view_eq, rewound, atStart.view_eq]
  rfl

/-- What a history of actions, from no text on, gives back and leads to. -/
def after (actions : List SourceAction) : List SourceAnswer × Cursor :=
  SourceAction.performAll perform actions empty

end Cursor

/--
Every history of loads and moves goes as if there were only the characters of
the lines loaded last and an index: a buffer and a cursor give the same answers
as the index does, and the same can be read from them.  There is a position
everywhere but at the end, and positions are in reading order of the index.
-/
theorem buffer_and_cursor_follow_index (actions : List SourceAction) :
    ((Buffer.after actions).1 = (IndexedText.after actions).1 ∧
      (Buffer.after actions).2.reading =
        (IndexedText.after actions).2.reading ∧
      (Buffer.after actions).2.Placed (IndexedText.after actions).2) ∧
    ((Cursor.after actions).1 = (IndexedText.after actions).1 ∧
      (Cursor.after actions).2.reading =
        (IndexedText.after actions).2.reading) ∧
    ((IndexedText.after actions).2.position? = none ↔
      (IndexedText.after actions).2.index =
        (IndexedText.after actions).2.characters.length) ∧
    ∀ (further : IndexedText) (here there : Position),
      further.lines = (IndexedText.after actions).2.lines →
        (IndexedText.after actions).2.index < further.index →
        (IndexedText.after actions).2.position? = some here →
        further.position? = some there →
        here.Before there := by
  obtain ⟨bufferAnswers, bufferStands⟩ :=
    SourceAction.performAll_related Buffer.StandsAt.perform actions
      Buffer.standsAt_empty
  obtain ⟨cursorAnswers, cursorStands⟩ :=
    SourceAction.performAll_related Cursor.StandsAt.perform actions
      (Cursor.standsAt_ofLines [])
  refine ⟨⟨bufferAnswers, bufferStands.reading_eq, bufferStands.placed⟩,
    ⟨cursorAnswers, cursorStands.reading_eq⟩,
    IndexedText.position?_eq_none_iff _, ?_⟩
  intro further here there sameLines inOrder isHere isThere
  exact IndexedText.before_of_index_lt sameLines.symm inOrder isHere isThere

/--
Over an empty line to the next character and back: nothing comes before the
first character, and the marker in the text stops the reading.
-/
theorem buffer_and_cursor_follow_index_over_empty_line :
    ((Buffer.after
        [.loadFile (fun _ => some "\na\n\n\x7fb\n".toUTF8) "gap.owl", .retreat,
          .advance, .advance, .advance, .retreat, .retreat, .retreat]).1 =
        [.loaded true, .failed .bufferUnderflow, .character '\x7f',
          .character 'b', .character endMarker, .moved, .moved, .moved] ∧
      (Cursor.after
        [.loadFile (fun _ => some "\na\n\n\x7fb\n".toUTF8) "gap.owl", .retreat,
          .advance, .advance, .advance, .retreat, .retreat,
          .retreat]).2.reading.drained = ['a']) ∧
      (⟨2, 1⟩ : Position).Before ⟨4, 1⟩ := by
  have follow :=
    buffer_and_cursor_follow_index
      [.loadFile (fun _ => some "\na\n\n\x7fb\n".toUTF8) "gap.owl", .retreat,
        .advance, .advance, .advance, .retreat, .retreat, .retreat]
  refine ⟨⟨?_, ?_⟩, ?_⟩
  · rw [follow.1.1]
    rfl
  · rw [follow.2.1.2]
    rfl
  · exact follow.2.2.2 ⟨[⟨[]⟩, ⟨['a']⟩, ⟨[]⟩, ⟨['\x7f', 'b']⟩], 1, by decide⟩
      ⟨2, 1⟩ ⟨4, 1⟩ rfl (by decide) rfl rfl

end OwlScript
