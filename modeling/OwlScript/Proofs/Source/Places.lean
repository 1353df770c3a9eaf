import OwlScript.Proofs.Token.Lines
import OwlScript.Source.Buffer

namespace OwlScript

/-!
# Places and indices

The characters of some lines, put behind each other, are counted from zero.
Every place among the lines has the number of characters in front of it as its
index, and the moves to the next and the previous place change this index by
one.  All that has to be known about empty lines is that the count of
characters stays the same over them.
-/

/-- The characters of all lines behind each other. -/
def charactersOf (lines : List Line) : List Char :=
  lines.flatMap Line.characters

/-- The characters of a line, placed, are its characters. -/
theorem map_value_locateLine
    (number : Nat)
    (line : Line) :
    (locateLine number line).map SourceCharacter.value =
      line.characters := by
  apply List.ext_getElem
  · simp [locateLine]
  · simp [locateLine]

/-- The characters of lines, placed, are their characters. -/
theorem map_value_locateFrom
    (number : Nat)
    (lines : List Line) :
    (locateFrom number lines).map SourceCharacter.value =
      charactersOf lines := by
  induction lines generalizing number with
  | nil =>
      rfl
  | cons line rest hypothesis =>
      rw [locateFrom, List.map_append, map_value_locateLine, hypothesis]
      rfl

/-- The located characters of lines are their characters. -/
theorem map_value_locateLines (lines : List Line) :
    (locateLines lines).map SourceCharacter.value = charactersOf lines := by
  rw [locateLines_eq_locateFrom, map_value_locateFrom]

/-- Placing the characters of lines does not change their number. -/
theorem length_locateFrom
    (number : Nat)
    (lines : List Line) :
    (locateFrom number lines).length = (charactersOf lines).length := by
  rw [← map_value_locateFrom number, List.length_map]

/-- Placing all characters does not change their number. -/
theorem length_locateLines (lines : List Line) :
    (locateLines lines).length = (charactersOf lines).length := by
  rw [locateLines_eq_locateFrom, length_locateFrom]

/-- A position in front of another one in reading order. -/
def Position.Before (first second : Position) : Prop :=
  first.line < second.line ∨
    first.line = second.line ∧ first.column < second.column

/-- On a line the positions increase. -/
theorem pairwise_before_locateLine
    (number : Nat)
    (line : Line) :
    (locateLine number line).Pairwise fun first second =>
      first.position.Before second.position := by
  unfold locateLine
  rw [List.pairwise_iff_getElem]
  intro first second firstInside secondInside inOrder
  rw [List.getElem_mapIdx, List.getElem_mapIdx]
  exact Or.inr ⟨rfl, Nat.succ_lt_succ inOrder⟩

/-- Over several lines the positions increase. -/
theorem pairwise_before_locateFrom
    (number : Nat)
    (lines : List Line) :
    (locateFrom number lines).Pairwise fun first second =>
      first.position.Before second.position := by
  induction lines generalizing number with
  | nil =>
      exact List.Pairwise.nil
  | cons line rest hypothesis =>
      rw [locateFrom, List.pairwise_append]
      refine ⟨pairwise_before_locateLine number line,
        hypothesis (number + 1), ?_⟩
      intro first firstMember second secondMember
      have onLine := line_of_mem_locateLine firstMember
      have behindLine := le_line_of_mem_locateFrom secondMember
      exact Or.inl (by omega)

/-- The positions of the characters of lines are in reading order. -/
theorem pairwise_before_locateLines (lines : List Line) :
    (locateLines lines).Pairwise fun first second =>
      first.position.Before second.position := by
  rw [locateLines_eq_locateFrom]
  exact pairwise_before_locateFrom 1 lines

/-- The number of characters on the lines in front of a line. -/
def countBefore (lines : List Line) (line : Nat) : Nat :=
  (charactersOf (lines.take line)).length

/-- In front of the next line there are also the characters of this one. -/
theorem countBefore_succ (lines : List Line) (line : Nat) :
    countBefore lines (line + 1) =
      countBefore lines line + lengthOfLine lines line := by
  unfold countBefore charactersOf lengthOfLine
  rw [List.take_add_one, List.flatMap_append, List.length_append]
  cases lines[line]? with
  | none =>
      rfl
  | some text =>
      simp [Line.length]

/-- In front of the end there are all characters. -/
theorem countBefore_length (lines : List Line) :
    countBefore lines lines.length = (charactersOf lines).length := by
  rw [countBefore, List.take_length]

/-- In front of no line there are more characters than in all. -/
theorem countBefore_le_length
    (lines : List Line)
    (line : Nat) :
    countBefore lines line ≤ (charactersOf lines).length := by
  have whole := congrArg charactersOf (List.take_append_drop line lines)
  unfold charactersOf at whole
  rw [List.flatMap_append] at whole
  have total := congrArg List.length whole
  rw [List.length_append] at total
  unfold countBefore charactersOf
  omega

/-- A column inside a line belongs to a line that exists. -/
theorem exists_line_of_lt_lengthOfLine
    {lines : List Line}
    {line column : Nat}
    (inside : column < lengthOfLine lines line) :
    ∃ text, lines[line]? = some text ∧ column < text.length := by
  unfold lengthOfLine at inside
  cases stored : lines[line]? with
  | none =>
      simp [stored] at inside
  | some text =>
      exact ⟨text, rfl, by simpa [stored] using inside⟩

namespace Place

/-- Whether the place is one of the characters of the lines, or their end. -/
def IsIn (lines : List Line) : Place → Prop
  | .character line column => column < lengthOfLine lines line
  | .ended => True

/-- The number of characters in front of a place. -/
def index (lines : List Line) : Place → Nat
  | .character line column => countBefore lines line + column
  | .ended => (charactersOf lines).length

variable {lines : List Line}

/-- A character is in the lines if its column is inside its line. -/
@[simp]
theorem isIn_character (line column : Nat) :
    (character line column).IsIn lines ↔
      column < lengthOfLine lines line :=
  Iff.rfl

/--
The index of a character counts those in front of its line and its column.
-/
@[simp]
theorem index_character (line column : Nat) :
    index lines (.character line column) = countBefore lines line + column :=
  rfl

/-- A character is in front of the end. -/
theorem index_character_lt
    {line column : Nat}
    (inside : (character line column).IsIn lines) :
    index lines (.character line column) < (charactersOf lines).length := by
  have bound := countBefore_le_length lines (line + 1)
  rw [countBefore_succ] at bound
  rw [isIn_character] at inside
  rw [index_character]
  omega

/-- The search for the first character either finds one or goes to the end. -/
theorem firstFrom_eq (lines : List Line) (line : Nat) :
    firstFrom lines line =
      if line < lines.length then
        if lengthOfLine lines line = 0 then
          firstFrom lines (line + 1)
        else
          .character line 0
      else
        .ended := by
  unfold firstFrom
  by_cases inside : line < lines.length
  · have isEmpty :
        lines[line].isEmpty = true ↔ lengthOfLine lines line = 0 := by
      simp [lengthOfLine, inside, Line.isEmpty, Line.length]
    rw [if_pos inside, List.drop_eq_getElem_cons inside, List.findIdx?_cons]
    by_cases nothing : lengthOfLine lines line = 0
    · rw [if_pos nothing, isEmpty.mpr nothing]
      cases (lines.drop (line + 1)).findIdx? fun text => !text.isEmpty with
      | none =>
          rfl
      | some skipped =>
          simp [Nat.add_assoc, Nat.add_comm 1]
    · have notEmpty : lines[line].isEmpty = false :=
        Bool.eq_false_iff.mpr fun empty => nothing (isEmpty.mp empty)
      rw [if_neg nothing, notEmpty]
      rfl
  · rw [if_neg inside, List.drop_of_length_le (Nat.le_of_not_lt inside)]
    rfl

/-- No character is passed over in the search for the first one. -/
theorem firstFrom_spec
    (line : Nat)
    (within : line ≤ lines.length) :
    (firstFrom lines line).IsIn lines ∧
      (firstFrom lines line).index lines = countBefore lines line := by
  rw [firstFrom_eq]
  by_cases inside : line < lines.length
  · rw [if_pos inside]
    by_cases nothing : lengthOfLine lines line = 0
    · have later := firstFrom_spec (line + 1) inside
      rw [if_pos nothing]
      refine ⟨later.1, later.2.trans ?_⟩
      rw [countBefore_succ, nothing, Nat.add_zero]
    · rw [if_neg nothing]
      exact ⟨Nat.pos_of_ne_zero nothing, rfl⟩
  · have atEnd : line = lines.length :=
      Nat.le_antisymm within (Nat.le_of_not_lt inside)
    rw [if_neg inside, atEnd]
    exact ⟨trivial, (countBefore_length lines).symm⟩
termination_by lines.length - line

/-- What the search for the last character in front of a line finds. -/
theorem lastBefore?_spec (line : Nat) :
    (lastBefore? lines line = none ∧ countBefore lines line = 0) ∨
      ∃ last column,
        lastBefore? lines line = some (.character last column) ∧
          (character last column).IsIn lines ∧
          index lines (.character last column) + 1 =
            countBefore lines line := by
  induction line with
  | zero =>
      exact Or.inl ⟨rfl, rfl⟩
  | succ line hypothesis =>
      unfold lastBefore?
      rw [countBefore_succ]
      by_cases nothing : lengthOfLine lines line = 0
      · rw [if_pos nothing, nothing, Nat.add_zero]
        exact hypothesis
      · rw [if_neg nothing]
        refine Or.inr ⟨line, lengthOfLine lines line - 1, rfl, ?_, ?_⟩
        · exact Nat.sub_lt (Nat.pos_of_ne_zero nothing) Nat.one_pos
        · rw [index_character]
          omega

/-- The next place is one character on, or still the end. -/
theorem next_spec (place : Place) (inside : place.IsIn lines) :
    (place.next lines).IsIn lines ∧
      (place.next lines).index lines =
        min (place.index lines + 1) (charactersOf lines).length := by
  cases place with
  | ended =>
      exact ⟨trivial, (Nat.min_eq_right (Nat.le_succ _)).symm⟩
  | character line column =>
      have before := index_character_lt inside
      rw [Nat.min_eq_left before, next]
      by_cases further : column + 1 < lengthOfLine lines line
      · rw [if_pos further]
        exact ⟨further, rfl⟩
      · rw [if_neg further]
        obtain ⟨text, stored, _⟩ := exists_line_of_lt_lengthOfLine inside
        obtain ⟨isLine, _⟩ := List.getElem?_eq_some_iff.mp stored
        obtain ⟨placed, counted⟩ :=
          @firstFrom_spec lines (line + 1) isLine
        refine ⟨placed, counted.trans ?_⟩
        rw [isIn_character] at inside
        rw [countBefore_succ, index_character]
        omega

/-- The previous place is one character back, and only the first has none. -/
theorem previous?_spec (place : Place) (inside : place.IsIn lines) :
    (place.previous? lines = none ∧ place.index lines = 0) ∨
      ∃ line column,
        place.previous? lines = some (.character line column) ∧
          (character line column).IsIn lines ∧
          index lines (.character line column) + 1 = place.index lines := by
  cases place with
  | ended =>
      have searched := @lastBefore?_spec lines lines.length
      rw [countBefore_length] at searched
      exact searched
  | character line column =>
      cases column with
      | zero =>
          exact lastBefore?_spec line
      | succ column =>
          exact Or.inr ⟨line, column, rfl, Nat.lt_of_succ_lt inside, rfl⟩

/-- The character at a place with its position, if there is one. -/
def located? (lines : List Line) : Place → Option SourceCharacter
  | .character line column =>
      some ⟨value lines (.character line column), ⟨line + 1, column + 1⟩⟩
  | .ended => none

/-- Line by line, the characters are where the count in front says. -/
theorem getElem?_locateFrom
    {line column : Nat}
    (inside : column < lengthOfLine lines line)
    (number : Nat) :
    (locateFrom number lines)[countBefore lines line + column]? =
      some ⟨value lines (.character line column),
        ⟨line + number, column + 1⟩⟩ := by
  induction lines generalizing number line with
  | nil =>
      cases inside
  | cons first rest hypothesis =>
      rw [locateFrom]
      cases line with
      | zero =>
          have onFirst : column < first.characters.length := inside
          rw [List.getElem?_append_left (by simpa [locateLine, countBefore,
            charactersOf] using onFirst)]
          simp [locateLine, countBefore, charactersOf, value, Line.get?,
            onFirst]
      | succ line =>
          have later := hypothesis inside (number + 1)
          have counted :
              countBefore (first :: rest) (line + 1) =
                (locateLine number first).length + countBefore rest line := by
            simp [countBefore, charactersOf, locateLine]
          have shifted : line + 1 + number = line + (number + 1) := by
            omega
          rw [counted, Nat.add_assoc, List.getElem?_append_right (by omega),
            Nat.add_sub_cancel_left, later, shifted]
          rfl

/-- The character at a place is the one at its index. -/
theorem located?_eq_getElem? (place : Place) (inside : place.IsIn lines) :
    place.located? lines = (locateLines lines)[place.index lines]? := by
  cases place with
  | ended =>
      refine (List.getElem?_eq_none ?_).symm
      rw [length_locateLines]
      exact Nat.le_refl _
  | character line column =>
      rw [locateLines_eq_locateFrom]
      exact (getElem?_locateFrom inside 1).symm

end Place

end OwlScript
