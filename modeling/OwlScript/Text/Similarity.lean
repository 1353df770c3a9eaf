namespace OwlScript.Text

/-!
# Similarity of words

Two words are the more similar the more characters they have in common at
nearby places and in the same order.  The measure is the one of Jaro: the mean
of the common share of either word and of the share that is in order.
-/

/-- A character of a word and whether it is counted as common already. -/
structure MarkedCharacter where
  value : Char
  isCommon : Bool
  deriving Repr, DecidableEq

/-- The characters of a word, none of them counted as common yet. -/
def unmarked (word : List Char) : List MarkedCharacter :=
  word.map fun value => ⟨value, false⟩

/--
Marks the first free character equal to the given one whose index is in
`least ≤ index < bound`, if there is one.  The list begins at an index.
-/
def markCommon?
    (character : Char)
    (least bound : Nat) :
    Nat → List MarkedCharacter → Option (List MarkedCharacter)
  | _, [] => none
  | index, candidate :: rest =>
      if least ≤ index && index < bound && !candidate.isCommon &&
          candidate.value == character then
        some ({ candidate with isCommon := true } :: rest)
      else
        (markCommon? character least bound (index + 1) rest).map
          (candidate :: ·)

/--
The characters of a word, from an index on, that have a partner within reach
in the other word, and the other word with the partners marked.
-/
def commonFrom (reach : Nat) :
    Nat →
      List Char →
        List MarkedCharacter →
          List Char × List MarkedCharacter
  | _, [], other => ([], other)
  | index, character :: rest, other =>
      match markCommon? character (index - reach) (index + reach + 1) 0
          other with
      | some marked =>
          let (common, final) := commonFrom reach (index + 1) rest marked
          (character :: common, final)
      | none => commonFrom reach (index + 1) rest other

/-- How far apart common characters of two words may stand. -/
def reachOf (first second : List Char) : Nat :=
  max first.length second.length / 2 - 1

/-- The number of places at which two sequences differ. -/
def differences (first second : List Char) : Nat :=
  (List.zipWith (fun one other => one != other) first second).count true

/-- The similarity of two words, from zero for unlike to one for equal ones. -/
def similarity (first second : List Char) : Float :=
  if first.isEmpty && second.isEmpty then
    1
  else
    let (common, marked) :=
      commonFrom (reachOf first second) 0 first (unmarked second)
    let partners :=
      (marked.filter MarkedCharacter.isCommon).map MarkedCharacter.value
    let count := common.length
    let inOrder := count - differences common partners / 2
    if count = 0 then
      0
    else
      (count.toFloat / first.length.toFloat +
          count.toFloat / second.length.toFloat +
          inOrder.toFloat / count.toFloat) / 3

/-- Marking a partner keeps the number of characters. -/
theorem length_of_markCommon?_eq_some
    {character : Char}
    {least bound index : Nat}
    {word marked : List MarkedCharacter}
    (found : markCommon? character least bound index word = some marked) :
    marked.length = word.length := by
  induction word generalizing index marked with
  | nil => simp [markCommon?] at found
  | cons candidate rest hypothesis =>
      rw [markCommon?] at found
      split at found
      · cases found
        rfl
      · obtain ⟨later, isLater, rfl⟩ := Option.map_eq_some_iff.mp found
        simp [hypothesis isLater]

end OwlScript.Text
