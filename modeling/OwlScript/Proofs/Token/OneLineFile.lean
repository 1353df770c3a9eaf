import OwlScript.Proofs.Token.Progress

namespace OwlScript

/-!
# Files of one line

A file that holds one line is scanned as the line is scanned as a text by
itself.  The line may be closed by a line feed, with or without a carriage
return in front of it, or end with the file.
-/

namespace Text

/-- The bytes of a text are read as the text. -/
theorem ofBytes_toUTF8 (text : String) :
    ofBytes text.toUTF8 = text := by
  have valid : text.toUTF8.IsValidUTF8 := text.isValidUTF8
  have decoded : String.fromUTF8? text.toUTF8 = some text := by
    rw [String.fromUTF8?, dif_pos valid]
    rfl
  rw [ofBytes, decoded, Option.getD_some]

/-- Elements that close nothing go to the open piece. -/
theorem cutAfterFrom_append
    {α : Type}
    {closes : α → Bool}
    {front : List α}
    (noneCloses : ∀ element ∈ front, closes element = false)
    (closed : List (List α))
    (current rest : List α) :
    cutAfterFrom closes closed current (front ++ rest) =
      cutAfterFrom closes closed (front.reverse ++ current) rest := by
  induction front generalizing current with
  | nil =>
      rfl
  | cons first front hypothesis =>
      rw [List.forall_mem_cons] at noneCloses
      have later := hypothesis noneCloses.2 (first :: current)
      simp only [List.cons_append, cutAfterFrom, noneCloses.1,
        Bool.false_eq_true, ↓reduceIte, List.reverse_cons,
        List.append_assoc]
      exact later

/-- A sequence with nothing that closes a piece is one piece. -/
theorem cutAfter_of_noneCloses
    {α : Type}
    {closes : α → Bool}
    {sequence : List α}
    (noneCloses : ∀ element ∈ sequence, closes element = false)
    (notEmpty : sequence ≠ []) :
    cutAfter closes sequence = [sequence] := by
  have cut := cutAfterFrom_append noneCloses [] [] []
  rw [List.append_nil, List.append_nil] at cut
  rw [cutAfter, cut]
  cases reversed : sequence.reverse with
  | nil =>
      exact absurd (List.reverse_eq_nil_iff.mp reversed) notEmpty
  | cons last earlier =>
      rw [cutAfterFrom, ← reversed, List.reverse_reverse]
      rfl

/-- What closes a piece only at the very end leaves one piece. -/
theorem cutAfter_append_singleton
    {α : Type}
    {closes : α → Bool}
    {front : List α}
    {last : α}
    (noneCloses : ∀ element ∈ front, closes element = false)
    (lastCloses : closes last = true) :
    cutAfter closes (front ++ [last]) = [front ++ [last]] := by
  rw [cutAfter, cutAfterFrom_append noneCloses, cutAfterFrom, lastCloses]
  simp [cutAfterFrom]

/-- A return and a line feed are both taken for the ending. -/
theorem withoutEnding_returnLineFeed (piece : List Char) :
    withoutEnding (piece ++ ['\r'] ++ ['\n']) = piece := by
  simp [withoutEnding]

/-- A line feed alone is taken off where no carriage return is in front. -/
theorem withoutEnding_lineFeed
    {piece : List Char}
    (noReturn : piece.getLast? ≠ some '\r') :
    withoutEnding (piece ++ ['\n']) = piece := by
  rcases List.eq_nil_or_concat piece with rfl | ⟨earlier, last, rfl⟩
  · rfl
  · have notReturn : last ≠ '\r' := by
      intro isReturn
      simp [isReturn] at noReturn
    simp [withoutEnding, notReturn]

/-- A piece without a line feed has no ending. -/
theorem withoutEnding_of_noLineFeed
    {piece : List Char}
    (noLineFeed : '\n' ∉ piece) :
    withoutEnding piece = piece := by
  rcases List.eq_nil_or_concat piece with rfl | ⟨earlier, last, rfl⟩
  · rfl
  · have notLineFeed : last ≠ '\n' := by
      intro isLineFeed
      simp [isLineFeed] at noLineFeed
    simp [withoutEnding, notLineFeed]

/-- A text without line breaks is one line, whether the line is closed. -/
theorem lines_append_ending
    {text : String}
    (noLineFeed : '\n' ∉ text.toList)
    (noReturn : '\r' ∉ text.toList)
    {ending : String}
    (isEnding : ending ∈ ["", "\n", "\r\n"]) :
    lines (text ++ ending) = [text.toList] ∨
      text.toList = [] ∧ lines (text ++ ending) = [] := by
  have noneCloses :
      ∀ element ∈ text.toList, (element == '\n') = false := by
    intro element member
    rw [beq_eq_false_iff_ne]
    rintro rfl
    exact noLineFeed member
  simp only [List.mem_cons, List.not_mem_nil, or_false] at isEnding
  unfold lines
  rw [String.toList_append]
  rcases isEnding with rfl | rfl | rfl
  · by_cases isEmpty : text.toList = []
    · rw [isEmpty]
      exact Or.inr ⟨rfl, rfl⟩
    · rw [String.toList_empty, List.append_nil,
        cutAfter_of_noneCloses noneCloses isEmpty, List.map_singleton,
        withoutEnding_of_noLineFeed noLineFeed]
      exact Or.inl rfl
  · have cut := cutAfter_append_singleton noneCloses (beq_self_eq_true '\n')
    have lineFeed : "\n".toList = ['\n'] := rfl
    have notLast : text.toList.getLast? ≠ some '\r' :=
      fun isLast => noReturn (List.mem_of_getLast? isLast)
    rw [lineFeed, cut, List.map_singleton, withoutEnding_lineFeed notLast]
    exact Or.inl rfl
  · have returnLineFeed : "\r\n".toList = ['\r'] ++ ['\n'] := rfl
    have returnCloses :
        ∀ element ∈ text.toList ++ ['\r'], (element == '\n') = false := by
      rw [List.forall_mem_append]
      exact ⟨noneCloses, List.forall_mem_singleton.mpr rfl⟩
    have cut :=
      cutAfter_append_singleton returnCloses (beq_self_eq_true '\n')
    rw [returnLineFeed, ← List.append_assoc, cut, List.map_singleton,
      withoutEnding_returnLineFeed]
    exact Or.inl rfl

end Text

/-- A file of one line has the tokens of the line as a text. -/
theorem tokensOfFile_eq_tokensOfText
    {files : Files}
    {path ending text : String}
    (isEnding : ending ∈ ["", "\n", "\r\n"])
    (noLineFeed : '\n' ∉ text.toList)
    (noReturn : '\r' ∉ text.toList)
    (holds : files path = some (text ++ ending).toUTF8) :
    tokensOfFile files path = tokensOfText text := by
  unfold tokensOfFile Cursor.ofFile LineStore.load linesOfContent
  rw [holds]
  dsimp only
  rw [Text.ofBytes_toUTF8]
  rcases Text.lines_append_ending noLineFeed noReturn isEnding with
    oneLine | ⟨isEmpty, noLine⟩
  · rw [oneLine]
    rfl
  · have noText : text = "" := String.toList_eq_nil_iff.mp isEmpty
    rw [noLine, noText]
    rfl

end OwlScript
