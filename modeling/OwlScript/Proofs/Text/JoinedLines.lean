import OwlScript.Proofs.Token.OneLineFile

namespace OwlScript

/-!
# Lines of texts joined

Two texts are joined with a line between them that holds a semicolon only.
The lines of the whole are those of the one text, the line between, and those
of the other.  A last line that was not closed is closed now, which takes a
carriage return from its end at most, and a text that was closed has one more,
empty line.
-/

namespace Text

/-- Pieces closed already stay in front of the others. -/
theorem cutAfterFrom_eq_append
    {α : Type}
    (closes : α → Bool)
    (closed : List (List α))
    (current sequence : List α) :
    cutAfterFrom closes closed current sequence =
      closed.reverse ++ cutAfterFrom closes [] current sequence := by
  induction sequence generalizing closed current with
  | nil =>
      cases current <;> simp [cutAfterFrom]
  | cons element rest hypothesis =>
      by_cases ends : closes element = true
      · simp only [cutAfterFrom, ends, if_true]
        rw [hypothesis, hypothesis [_]]
        simp
      · simp only [cutAfterFrom, ends]
        exact hypothesis closed (element :: current)

/-- Behind a closing element the cutting begins anew. -/
theorem cutAfter_append_cons
    {α : Type}
    {closes : α → Bool}
    {last : α}
    (ends : closes last = true)
    (front rest : List α) :
    cutAfter closes (front ++ last :: rest) =
      cutAfter closes (front ++ [last]) ++ cutAfter closes rest := by
  have fromOpen (current : List α) :
      cutAfterFrom closes [] current (front ++ last :: rest) =
        cutAfterFrom closes [] current (front ++ [last]) ++
          cutAfterFrom closes [] [] rest := by
    induction front generalizing current with
    | nil =>
        simp only [List.nil_append, cutAfterFrom, ends, if_true]
        exact cutAfterFrom_eq_append closes _ [] rest
    | cons first front hypothesis =>
        by_cases firstEnds : closes first = true
        · simp only [List.cons_append, cutAfterFrom, firstEnds, if_true]
          rw [cutAfterFrom_eq_append closes [_] [] (front ++ last :: rest),
            cutAfterFrom_eq_append closes [_] [] (front ++ [last]),
            hypothesis, List.append_assoc]
        · simp only [List.cons_append, cutAfterFrom, firstEnds]
          exact hypothesis (first :: current)
  exact fromOpen []

/-- The sequence is empty, or its last element closes a piece. -/
def IsClosed
    {α : Type}
    (closes : α → Bool)
    (sequence : List α) : Prop :=
  sequence = [] ∨
    ∃ front last, closes last = true ∧ sequence = front ++ [last]

/-- Behind a closed row of pieces the rest is cut by itself. -/
theorem IsClosed.cutAfter_append
    {α : Type}
    {closes : α → Bool}
    {closed : List α}
    (isClosed : IsClosed closes closed)
    (behind : List α) :
    cutAfter closes (closed ++ behind) =
      cutAfter closes closed ++ cutAfter closes behind := by
  rcases isClosed with rfl | ⟨front, last, ends, rfl⟩
  · rfl
  · simpa using cutAfter_append_cons ends front behind

/-- A sequence is closed up to some place, and nothing behind it closes. -/
theorem exists_closed_open
    {α : Type}
    (closes : α → Bool)
    (sequence : List α) :
    ∃ closed rest,
      sequence = closed ++ rest ∧
        IsClosed closes closed ∧
          ∀ element ∈ rest, closes element = false := by
  induction sequence with
  | nil =>
      exact ⟨[], [], rfl, .inl rfl, nofun⟩
  | cons first later hypothesis =>
      obtain ⟨closed, rest, rfl, isEmpty | ⟨front, last, lastEnds, rfl⟩,
        noneCloses⟩ := hypothesis
      · subst isEmpty
        cases ends : closes first with
        | true =>
            exact ⟨[first], rest, rfl, .inr ⟨[], first, ends, rfl⟩,
              noneCloses⟩
        | false =>
            exact ⟨[], first :: rest, rfl, .inl rfl,
              List.forall_mem_cons.2 ⟨ends, noneCloses⟩⟩
      · exact ⟨first :: (front ++ [last]), rest, rfl,
          .inr ⟨first :: front, last, lastEnds, rfl⟩, noneCloses⟩

/--
A text with a line feed and more behind it has the lines of the text, the last
of them closed or an empty one behind them, and then the lines of the rest.
-/
theorem exists_lines_append_lineFeed (text : String) :
    ∃ closed last kept,
      lines text = closed ++ last ∧
        (last = [] ∧ kept = [] ∨ last = [kept] ∨ last = [kept ++ ['\r']]) ∧
          ∀ rest,
            lines (text ++ "\n" ++ rest) = closed ++ kept :: lines rest := by
  obtain ⟨closed, tail, shape, isClosed, noneCloses⟩ :=
    exists_closed_open (· == '\n') text.toList
  have noLineFeed : '\n' ∉ tail := by
    intro member
    simpa using noneCloses '\n' member
  have whole (rest : String) :
      lines (text ++ "\n" ++ rest) =
        (cutAfter (· == '\n') closed).map withoutEnding ++
          withoutEnding (tail ++ ['\n']) :: lines rest := by
    have characters :
        (text ++ "\n" ++ rest).toList =
          closed ++ (tail ++ '\n' :: rest.toList) := by
      simp [shape]
    have behind :
        cutAfter (· == '\n') (tail ++ '\n' :: rest.toList) =
          (tail ++ ['\n']) :: cutAfter (· == '\n') rest.toList := by
      have first :=
        cutAfter_append_singleton noneCloses (beq_self_eq_true '\n')
      have pieces :=
        @cutAfter_append_cons _ (· == '\n') '\n' (beq_self_eq_true '\n') tail
          rest.toList
      rwa [first] at pieces
    rw [lines, characters, isClosed.cutAfter_append, behind, List.map_append,
      List.map_cons, lines]
  have own :
      lines text =
        (cutAfter (· == '\n') closed).map withoutEnding ++
          if tail = [] then [] else [tail] := by
    rw [lines, shape, isClosed.cutAfter_append, List.map_append]
    by_cases isEmpty : tail = []
    · rw [isEmpty]
      rfl
    · rw [cutAfter_of_noneCloses noneCloses isEmpty, if_neg isEmpty,
        List.map_singleton, withoutEnding_of_noLineFeed noLineFeed]
  refine ⟨_, _, _, own, ?_, whole⟩
  rcases List.eq_nil_or_concat tail with rfl | ⟨earlier, final, rfl⟩
  · exact .inl ⟨rfl, rfl⟩
  · have notEmpty : earlier.concat final ≠ [] := by simp
    rw [if_neg notEmpty, List.concat_eq_append]
    by_cases isReturn : final = '\r'
    · rw [isReturn, withoutEnding_returnLineFeed]
      exact .inr (.inr rfl)
    · refine .inr (.inl ?_)
      simp [withoutEnding, isReturn]

/-- What is put between two texts that are joined. -/
def joint : String :=
  "\n;\n"

/--
The lines of two texts joined.  The first text may lack the end of its last
line, and has it now.
-/
theorem exists_lines_joined (first : String) :
    ∃ closed last kept,
      lines first = closed ++ last ∧
        (last = [] ∧ kept = [] ∨ last = [kept] ∨ last = [kept ++ ['\r']]) ∧
          (lines (first ++ joint)).length = closed.length + 2 ∧
            ∀ second,
              lines (first ++ joint ++ second) =
                closed ++ kept :: [';'] :: lines second := by
  obtain ⟨closed, last, kept, own, lastLine, behindLineFeed⟩ :=
    exists_lines_append_lineFeed first
  have whole (second : String) :
      lines (first ++ joint ++ second) =
        closed ++ kept :: [';'] :: lines second := by
    have parts :
        first ++ joint ++ second = first ++ "\n" ++ (";\n" ++ second) := by
      have separated : joint = "\n" ++ ";\n" := by decide
      rw [separated]
      simp only [String.append_assoc]
    have semicolonLine :
        lines (";\n" ++ second) = [';'] :: lines second := by
      have characters :
          (";\n" ++ second).toList = [';'] ++ '\n' :: second.toList := by
        simp
      have pieces :=
        @cutAfter_append_cons _ (· == '\n') '\n' (beq_self_eq_true '\n') [';']
          second.toList
      rw [lines, characters, pieces, List.map_append]
      rfl
    rw [parts, behindLineFeed, semicolonLine]
  refine ⟨closed, last, kept, own, lastLine, ?_, whole⟩
  have alone := whole ""
  rw [String.append_empty] at alone
  rw [alone, List.length_append]
  rfl

end Text

end OwlScript
