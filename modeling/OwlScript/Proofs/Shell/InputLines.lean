import OwlScript.Proofs.Text.JoinedLines
import OwlScript.Proofs.Token.Spans
import OwlScript.Shell.Dialogue

namespace OwlScript

/-!
# Lines of an input

An input is a sequence of bytes.  It is cut behind each line feed, and what is
left behind the last one is a line as well, unless it is empty.  The bytes of a
line stand for a text if they are valid, and the text is what is left without
the line feeds and carriage returns at the end.
-/

namespace Text

variable {α : Type}
variable {closes : α → Bool}

/--
A sequence is cut into pieces behind the elements that close one.  The last
piece may lack such an element, but it is not empty.
-/
inductive CutInto (closes : α → Bool) : List α → List (List α) → Prop where
  | nothing :
      CutInto closes [] []
  | unclosed
      {piece : List α}
      (notEmpty : piece ≠ [])
      (noneCloses : ∀ element ∈ piece, closes element = false) :
      CutInto closes piece [piece]
  | closed
      {front rest : List α}
      {last : α}
      {pieces : List (List α)}
      (noneCloses : ∀ element ∈ front, closes element = false)
      (lastCloses : closes last = true)
      (later : CutInto closes rest pieces) :
      CutInto closes (front ++ last :: rest) ((front ++ [last]) :: pieces)

/-- An element that closes nothing makes the first piece longer. -/
theorem CutInto.cons
    {element : α}
    {sequence : List α}
    {pieces : List (List α)}
    (goesOn : closes element = false)
    (cut : CutInto closes sequence pieces) :
    ∃ more, CutInto closes (element :: sequence) more := by
  cases cut with
  | nothing =>
      exact ⟨_, .unclosed (List.cons_ne_nil _ _)
        (List.forall_mem_singleton.2 goesOn)⟩
  | unclosed notEmpty noneCloses =>
      exact ⟨_, .unclosed (List.cons_ne_nil _ _)
        (List.forall_mem_cons.2 ⟨goesOn, noneCloses⟩)⟩
  | @closed front rest last pieces noneCloses lastCloses later =>
      exact ⟨_, .closed (List.forall_mem_cons.2 ⟨goesOn, noneCloses⟩)
        lastCloses later⟩

/-- Every sequence can be cut into pieces. -/
theorem exists_cutInto (closes : α → Bool) (sequence : List α) :
    ∃ pieces, CutInto closes sequence pieces := by
  induction sequence with
  | nil =>
      exact ⟨[], .nothing⟩
  | cons element rest hypothesis =>
      obtain ⟨pieces, cut⟩ := hypothesis
      cases ends : closes element with
      | true =>
          have noneCloses : ∀ other ∈ [], closes other = false :=
            nofun
          exact ⟨_, .closed noneCloses ends cut⟩
      | false =>
          exact cut.cons ends

/-- There is only one way to cut a sequence. -/
theorem CutInto.eq_cutAfter
    {sequence : List α}
    {pieces : List (List α)}
    (cut : CutInto closes sequence pieces) :
    pieces = cutAfter closes sequence := by
  induction cut with
  | nothing =>
      rfl
  | unclosed notEmpty noneCloses =>
      rw [cutAfter_of_noneCloses noneCloses notEmpty]
  | closed noneCloses lastCloses later hypothesis =>
      rw [cutAfter_append_cons lastCloses,
        cutAfter_append_singleton noneCloses lastCloses, ← hypothesis]
      rfl

/-- There is one way to cut a sequence. -/
theorem cutInto_iff_eq_cutAfter
    (closes : α → Bool)
    (sequence : List α)
    (pieces : List (List α)) :
    CutInto closes sequence pieces ↔ pieces = cutAfter closes sequence := by
  constructor
  · exact CutInto.eq_cutAfter
  · intro same
    obtain ⟨others, cut⟩ := exists_cutInto closes sequence
    rwa [same, ← cut.eq_cutAfter]

end Text

/-- The bytes are those of some text. -/
def IsText (bytes : List UInt8) : Prop :=
  ∃ text : String, text.toUTF8 = ⟨bytes.toArray⟩

/--
The bytes of a line stand for a text: they are those of the text and of some
line feeds and carriage returns behind it, and the text ends with neither.
-/
def StandsForLine (bytes : List UInt8) (text : String) : Prop :=
  ∃ ending : String,
    (text ++ ending).toUTF8 = ⟨bytes.toArray⟩ ∧
      (∀ character ∈ ending.toList, character = '\n' ∨ character = '\r') ∧
      ∀ character ∈ text.toList.getLast?,
        character ≠ '\n' ∧ character ≠ '\r'

/-- Bytes are read as a text if they are its encoding. -/
theorem fromUTF8?_eq_some_iff (bytes : ByteArray) (text : String) :
    String.fromUTF8? bytes = some text ↔ text.toUTF8 = bytes := by
  unfold String.fromUTF8?
  constructor
  · intro decoded
    split at decoded
    · cases decoded
      rfl
    · cases decoded
  · rintro rfl
    exact dif_pos text.isValidUTF8

/-- Bytes that are the encoding of no text are not read. -/
theorem fromUTF8?_eq_none_iff (bytes : List UInt8) :
    String.fromUTF8? ⟨bytes.toArray⟩ = none ↔ ¬IsText bytes := by
  rw [Option.eq_none_iff_forall_ne_some]
  simp only [ne_eq, fromUTF8?_eq_some_iff, IsText, not_exists]

/-- A line ends with a line feed or with a carriage return. -/
theorem endsLine_iff (character : Char) :
    Dialogue.endsLine character = true ↔
      character = '\n' ∨ character = '\r' := by
  simp [Dialogue.endsLine]

/-- A text is what is kept of it and the characters that end its line. -/
theorem withoutLineEnd_iff (whole kept : List Char) :
    (whole.reverse.dropWhile Dialogue.endsLine).reverse = kept ↔
      ∃ ending,
        kept ++ ending = whole ∧
          (∀ character ∈ ending, Dialogue.endsLine character = true) ∧
          ∀ character ∈ kept.getLast?,
            Dialogue.endsLine character = false := by
  constructor
  · rintro rfl
    refine ⟨(whole.reverse.takeWhile Dialogue.endsLine).reverse, ?_, ?_, ?_⟩
    · rw [← List.reverse_append, List.takeWhile_append_dropWhile,
        List.reverse_reverse]
    · intro character member
      exact List.mem_takeWhile_imp (List.mem_reverse.1 member)
    · intro character isLast
      rw [List.getLast?_reverse] at isLast
      exact stopsAt_dropWhile _ _ character isLast
  · rintro ⟨ending, rfl, areEnds, stops⟩
    have endsReversed :
        ∀ character ∈ ending.reverse,
          Dialogue.endsLine character = true := by
      intro character member
      exact areEnds character (List.mem_reverse.1 member)
    have stopsReversed : StopsAt Dialogue.endsLine kept.reverse := by
      intro character isFirst
      rw [List.head?_reverse] at isFirst
      exact stops character isFirst
    rw [List.reverse_append,
      (takeWhile_dropWhile_of_stopsAt endsReversed stopsReversed).2,
      List.reverse_reverse]

namespace Dialogue

/-- A line is read as the text that its bytes stand for. -/
theorem lineText?_eq_some_iff (bytes : List UInt8) (text : String) :
    lineText? bytes = some text ↔ StandsForLine bytes text := by
  unfold lineText? StandsForLine
  rw [Option.map_eq_some_iff]
  simp only [fromUTF8?_eq_some_iff]
  constructor
  · rintro ⟨whole, isWhole, rfl⟩
    obtain ⟨ending, parts, areEnds, stops⟩ :=
      (withoutLineEnd_iff whole.toList _).1 rfl
    refine ⟨String.ofList ending, ?_, ?_, ?_⟩
    · rw [← String.ofList_append, parts, String.ofList_toList, isWhole]
    · intro character member
      rw [String.toList_ofList] at member
      exact (endsLine_iff character).1 (areEnds character member)
    · intro character isLast
      rw [String.toList_ofList] at isLast
      have notEnd := stops character isLast
      rw [← Bool.not_eq_true, endsLine_iff, not_or] at notEnd
      exact notEnd
  · rintro ⟨ending, isWhole, areEnds, stops⟩
    refine ⟨text ++ ending, isWhole, ?_⟩
    have kept :
        ((text ++ ending).toList.reverse.dropWhile endsLine).reverse =
          text.toList := by
      refine (withoutLineEnd_iff _ _).2
        ⟨ending.toList, String.toList_append.symm, ?_, ?_⟩
      · intro character member
        exact (endsLine_iff character).2 (areEnds character member)
      · intro character isLast
        rw [← Bool.not_eq_true, endsLine_iff, not_or]
        exact stops character isLast
    rw [kept, String.ofList_toList]

example : lineText? [97, 13, 13, 10] = some "a" := by
  decide

/-- A line is not read if its bytes are those of no text. -/
theorem lineText?_eq_none_iff (bytes : List UInt8) :
    lineText? bytes = none ↔ ¬IsText bytes := by
  unfold lineText?
  rw [Option.map_eq_none_iff, fromUTF8?_eq_none_iff]

end Dialogue

namespace StandsForLine

variable {bytes : List UInt8}
variable {text other : String}

/-- Bytes that stand for a line are a text. -/
theorem isText (standsFor : StandsForLine bytes text) : IsText bytes := by
  obtain ⟨ending, isWhole, -, -⟩ := standsFor
  exact ⟨_, isWhole⟩

/-- A line stands for one text only. -/
theorem unique
    (standsFor : StandsForLine bytes text)
    (alsoStandsFor : StandsForLine bytes other) :
    text = other := by
  rw [← Dialogue.lineText?_eq_some_iff] at standsFor alsoStandsFor
  exact Option.some_inj.1 (standsFor.symm.trans alsoStandsFor)

end StandsForLine

/-- Bytes stand for some line, or they are no text. -/
theorem exists_standsForLine_or_not (bytes : List UInt8) :
    (∃ text, StandsForLine bytes text) ∨ ¬IsText bytes := by
  cases isRead : Dialogue.lineText? bytes with
  | none =>
      exact .inr ((Dialogue.lineText?_eq_none_iff bytes).1 isRead)
  | some text =>
      exact .inl ⟨text, (Dialogue.lineText?_eq_some_iff bytes text).1 isRead⟩

end OwlScript
