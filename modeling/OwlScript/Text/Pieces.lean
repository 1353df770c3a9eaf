namespace OwlScript.Text

/-!
# Cutting a sequence into pieces

A sequence is cut after each of its closing elements, or at each of its
separating elements.  Both are used for characters and for bytes.
-/

/--
The pieces still to come, given the pieces already closed and the elements of
the open piece, both with the latest first.
-/
def cutAfterFrom
    (closes : α → Bool)
    (closed : List (List α))
    (current : List α) :
    List α → List (List α)
  | [] =>
      match current with
      | [] => closed.reverse
      | _ :: _ => (current.reverse :: closed).reverse
  | element :: rest =>
      if closes element then
        cutAfterFrom closes ((element :: current).reverse :: closed) [] rest
      else
        cutAfterFrom closes closed (element :: current) rest

/--
The sequence cut after each closing element.  Every piece keeps its closing
element, and what follows the last one is a piece unless it is empty, so that
the pieces put together are the sequence again.
-/
def cutAfter (closes : α → Bool) (sequence : List α) : List (List α) :=
  cutAfterFrom closes [] [] sequence

/-- Nothing is lost or added while pieces are closed. -/
theorem flatten_cutAfterFrom
    (closes : α → Bool)
    (closed : List (List α))
    (current sequence : List α) :
    (cutAfterFrom closes closed current sequence).flatten =
      closed.reverse.flatten ++ current.reverse ++ sequence := by
  induction sequence generalizing closed current with
  | nil => cases current <;> simp [cutAfterFrom]
  | cons element rest hypothesis =>
      by_cases ends : closes element = true <;>
        simp [cutAfterFrom, ends, hypothesis]

/-- The pieces put together are the sequence. -/
@[simp]
theorem flatten_cutAfter (closes : α → Bool) (sequence : List α) :
    (cutAfter closes sequence).flatten = sequence := by
  simp [cutAfter, flatten_cutAfterFrom]

/--
The sequence cut at each separating element, which belongs to no piece.  There
is always one piece more than there are separating elements.
-/
def splitAt (separates : α → Bool) (sequence : List α) : List (List α) :=
  sequence.foldr
    (fun element pieces =>
      if separates element then
        [] :: pieces
      else
        match pieces with
        | [] => [[element]]
        | piece :: later => (element :: piece) :: later)
    [[]]

/-- The empty sequence is one empty piece. -/
@[simp]
theorem splitAt_nil (separates : α → Bool) :
    splitAt separates [] = [[]] :=
  rfl

/-- There is one piece more than there are separating elements. -/
theorem length_splitAt (separates : α → Bool) (sequence : List α) :
    (splitAt separates sequence).length =
      sequence.countP separates + 1 := by
  induction sequence with
  | nil => rfl
  | cons element rest hypothesis =>
      by_cases parts : separates element = true
      · simpa [splitAt, parts] using hypothesis
      · rcases pieces : splitAt separates rest with _ | ⟨piece, later⟩
        · simp [pieces] at hypothesis
        · have unfolded :
              splitAt separates (element :: rest) =
                (element :: piece) :: later := by
            simp only [splitAt] at pieces
            simp [splitAt, parts, pieces]
          simpa [unfolded, pieces, parts] using hypothesis

end OwlScript.Text
