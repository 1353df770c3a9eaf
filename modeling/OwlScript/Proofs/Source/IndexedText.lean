import OwlScript.Proofs.Source.Places

namespace OwlScript

/-!
# A text as characters and an index

Reading a text can be described with no word on how lines are walked: there are
the characters of the lines loaded last and an index.  A load goes to the first
character, moves change the index by one between the first character and the
end, and whatever is seen is read off at the index.  What a machine does that
agrees with this in each action is known for every history of actions.
-/

/-- What can be done with a text that is read. -/
inductive SourceAction where
  | loadFile (files : Files) (path : String)
  | loadText (text : String)
  | advance
  | retreat

/-- What an action gives back. -/
inductive SourceAnswer where
  | loaded (succeeded : Bool)
  | character (current : Char)
  | moved
  | failed (failure : Failure)
  deriving DecidableEq

namespace SourceAction

/-- Carries out actions in order: every answer, and the state in the end. -/
def performAll
    {State : Type}
    (perform : SourceAction → State → SourceAnswer × State) :
    List SourceAction → State → List SourceAnswer × State
  | [], state => ([], state)
  | action :: rest, state =>
      let (answer, after) := perform action state
      let (answers, last) := performAll perform rest after
      (answer :: answers, last)

/--
If one step of two machines gives the same answer and keeps a relation between
their states, then so does every history.
-/
theorem performAll_related
    {First Second : Type}
    {related : First → Second → Prop}
    {performFirst : SourceAction → First → SourceAnswer × First}
    {performSecond : SourceAction → Second → SourceAnswer × Second}
    (step :
      ∀ (action : SourceAction) (first : First) (second : Second),
        related first second →
        (performFirst action first).1 = (performSecond action second).1 ∧
          related (performFirst action first).2
            (performSecond action second).2)
    (actions : List SourceAction)
    {first : First}
    {second : Second}
    (atStart : related first second) :
    (performAll performFirst actions first).1 =
        (performAll performSecond actions second).1 ∧
      related (performAll performFirst actions first).2
        (performAll performSecond actions second).2 := by
  induction actions generalizing first second with
  | nil =>
      exact ⟨rfl, atStart⟩
  | cons action rest hypothesis =>
      obtain ⟨sameAnswer, kept⟩ := step action first second atStart
      obtain ⟨sameAnswers, atEnd⟩ := hypothesis kept
      refine ⟨?_, atEnd⟩
      simp only [performAll, sameAnswer, sameAnswers]

end SourceAction

/-- What is seen of a text at the place where it is read. -/
structure SourceView where
  current : Char
  looksEnded : Bool
  position? : Option Position
  lineNumber : Nat
  endPosition : Position
  deriving DecidableEq

/--
What can be read from a place: what is seen there, and what is read up to the
next end marker and back to the first character, with what is seen behind it.
-/
structure SourceReading where
  here : SourceView
  drained : List Char
  behindDrained : SourceView
  rewound : List Char
  behindRewound : SourceView
  deriving DecidableEq

/-- The lines of a text and the index of one of its characters, or the end. -/
structure IndexedText where
  lines : List Line
  index : Nat
  index_le : index ≤ (charactersOf lines).length

namespace IndexedText

/-- The first character of some lines. -/
def ofLines (lines : List Line) : IndexedText :=
  ⟨lines, 0, Nat.zero_le _⟩

/-- The characters of the text. -/
def characters (text : IndexedText) : List Char :=
  charactersOf text.lines

/-- The lines of a file; none if it cannot be read. -/
def linesOfFile (files : Files) (path : String) : List Line :=
  ((files path).map linesOfContent).getD []

/-- The character at the index, or the marker at the end. -/
def current (text : IndexedText) : Char :=
  text.characters[text.index]?.getD endMarker

/-- One character on, up to the end. -/
def advance (text : IndexedText) : IndexedText :=
  ⟨text.lines, min (text.index + 1) text.characters.length,
    Nat.min_le_right _ _⟩

/-- One character back. -/
def retreat (text : IndexedText) : IndexedText :=
  ⟨text.lines, text.index - 1,
    Nat.le_trans (Nat.sub_le _ _) text.index_le⟩

/-- The position of the character at the index; at the end, there is none. -/
def position? (text : IndexedText) : Option Position :=
  (locateLines text.lines)[text.index]?.map SourceCharacter.position

/-- The position one column past the last character, if there is one. -/
def endPosition (text : IndexedText) : Position :=
  match (locateLines text.lines).getLast? with
  | some last => ⟨last.position.line, last.position.column + 1⟩
  | none => Position.start

/-- What is seen at the index. -/
def view (text : IndexedText) : SourceView where
  current := text.current
  looksEnded :=
    text.index = text.characters.length ∨
      text.characters[text.index]? = some endMarker
  position? := text.position?
  lineNumber :=
    match text.position? with
    | some position => position.line - 1
    | none => text.lines.length
  endPosition := text.endPosition

/-- The characters in front of the index. -/
def passed (text : IndexedText) : List Char :=
  text.characters.take text.index

/-- The characters from the index on. -/
def ahead (text : IndexedText) : List Char :=
  text.characters.drop text.index

/-- The characters in front of the next one that looks like the end. -/
def upToMarker (text : IndexedText) : List Char :=
  text.ahead.takeWhile (· != endMarker)

/-- Behind the characters in front of the next one that looks like the end. -/
def atMarker (text : IndexedText) : IndexedText where
  lines := text.lines
  index := text.index + text.upToMarker.length
  index_le := by
    have taken : text.upToMarker.length ≤ text.ahead.length :=
      (List.takeWhile_sublist _).length_le
    have total : text.ahead.length = text.characters.length - text.index :=
      List.length_drop
    have within := text.index_le
    unfold characters at total
    omega

/-- The marker is as far ahead as there are characters up to it. -/
@[simp]
theorem index_atMarker (text : IndexedText) :
    text.atMarker.index = text.index + text.upToMarker.length :=
  rfl

/-- What can be read from the index on. -/
def reading (text : IndexedText) : SourceReading where
  here := text.view
  drained := text.upToMarker
  behindDrained := text.atMarker.view
  rewound := text.passed.reverse
  behindRewound := (ofLines text.lines).view

/-- What an action does to the index, and what it gives back. -/
def perform :
    SourceAction → IndexedText → SourceAnswer × IndexedText
  | .loadFile files path, _ =>
      (.loaded (files path).isSome, ofLines (linesOfFile files path))
  | .loadText text, _ => (.moved, ofLines [Line.ofText text])
  | .advance, text => (.character text.advance.current, text.advance)
  | .retreat, text =>
      if text.index = 0 then
        (.failed .bufferUnderflow, text)
      else
        (.moved, text.retreat)

/-- What a history of actions, from no text on, gives back and leads to. -/
def after (actions : List SourceAction) :
    List SourceAnswer × IndexedText :=
  SourceAction.performAll perform actions (ofLines [])

/-- Only at the end there is no position. -/
theorem position?_eq_none_iff (text : IndexedText) :
    text.position? = none ↔ text.index = text.characters.length := by
  unfold position? characters
  rw [Option.map_eq_none_iff, List.getElem?_eq_none_iff, length_locateLines]
  exact ⟨fun beyond => Nat.le_antisymm text.index_le beyond,
    fun atEnd => Nat.le_of_eq atEnd.symm⟩

/-- Positions are in reading order of the index. -/
theorem before_of_index_lt
    {first second : IndexedText}
    {firstPosition secondPosition : Position}
    (sameLines : first.lines = second.lines)
    (inOrder : first.index < second.index)
    (isFirst : first.position? = some firstPosition)
    (isSecond : second.position? = some secondPosition) :
    firstPosition.Before secondPosition := by
  obtain ⟨firstHere, firstFound, rfl⟩ := Option.map_eq_some_iff.mp isFirst
  obtain ⟨secondHere, secondFound, rfl⟩ := Option.map_eq_some_iff.mp isSecond
  rw [sameLines] at firstFound
  obtain ⟨firstInside, rfl⟩ := List.getElem?_eq_some_iff.mp firstFound
  obtain ⟨secondInside, rfl⟩ := List.getElem?_eq_some_iff.mp secondFound
  exact List.pairwise_iff_getElem.mp
    (pairwise_before_locateLines second.lines) _ _ _ _ inOrder

/--
The current character is the marker at the end, or if the text has one there.
-/
theorem current_eq_endMarker_iff (text : IndexedText) :
    text.current = endMarker ↔
      text.index = text.characters.length ∨
        text.characters[text.index]? = some endMarker := by
  have ended :
      text.characters[text.index]? = none ↔
        text.index = text.characters.length := by
    rw [List.getElem?_eq_none_iff]
    exact ⟨fun beyond => Nat.le_antisymm text.index_le beyond,
      fun atEnd => Nat.le_of_eq atEnd.symm⟩
  unfold current
  rw [← ended]
  cases text.characters[text.index]? with
  | none =>
      simp
  | some character =>
      simp

/-- Where the current character looks like the end, reading on stops. -/
theorem upToMarker_of_current_eq
    {text : IndexedText}
    (looksEnded : text.current = endMarker) :
    text.upToMarker = [] := by
  unfold upToMarker ahead
  rcases text.current_eq_endMarker_iff.mp looksEnded with atEnd | marked
  · rw [atEnd, List.drop_length]
    rfl
  · obtain ⟨inside, isMarker⟩ := List.getElem?_eq_some_iff.mp marked
    rw [List.drop_eq_getElem_cons inside, isMarker]
    rfl

/-- Where it does not, it is read, and reading goes on one character on. -/
theorem upToMarker_of_current_ne
    {text : IndexedText}
    (goesOn : text.current ≠ endMarker) :
    text.index < text.characters.length ∧
      text.upToMarker = text.current :: text.advance.upToMarker := by
  have notEnded : text.index ≠ text.characters.length := fun atEnd =>
    goesOn (text.current_eq_endMarker_iff.mpr (Or.inl atEnd))
  have inside : text.index < text.characters.length :=
    Nat.lt_of_le_of_ne text.index_le notEnded
  have next : text.advance.index = text.index + 1 :=
    Nat.min_eq_left inside
  have ahead : text.ahead = text.current :: text.advance.ahead := by
    unfold ahead current
    rw [next, List.drop_eq_getElem_cons inside,
      List.getElem?_eq_getElem inside]
    rfl
  have kept : (text.current != endMarker) = true := bne_iff_ne.mpr goesOn
  refine ⟨inside, ?_⟩
  unfold upToMarker
  rw [ahead, List.takeWhile_cons, if_pos kept]

/-- Behind the first character, the one before it was passed last. -/
theorem reverse_passed_of_index_ne_zero
    {text : IndexedText}
    (notFirst : text.index ≠ 0) :
    text.passed.reverse =
      text.retreat.current :: text.retreat.passed.reverse := by
  have inside : text.index - 1 < text.characters.length :=
    Nat.lt_of_lt_of_le (Nat.sub_one_lt notFirst) text.index_le
  have current :
      text.retreat.current = text.characters[text.index - 1] := by
    have same : text.retreat.characters = text.characters := rfl
    unfold IndexedText.current
    rw [same, retreat, List.getElem?_eq_getElem inside]
    rfl
  have passed :
      text.passed = text.retreat.passed ++ [text.retreat.current] := by
    have last := List.take_append_getElem inside
    rw [Nat.sub_one_add_one notFirst] at last
    rw [current]
    exact last.symm
  rw [passed, List.reverse_append]
  rfl

end IndexedText

end OwlScript
