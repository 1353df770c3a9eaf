import OwlScript.Proofs.Text.JoinedLines

namespace OwlScript

/-!
# Line endings of a file

Lines may be written with a line feed behind each, or with a carriage return
and a line feed, and the last one with neither.  Reading the file gives the
lines back and nothing of what was written between them.  A carriage return at
the end of a line is its own only if it cannot be taken for part of the ending,
which is why such a line is not closed by a line feed alone.
-/

namespace Text

/--
The characters are those of the lines, each with an ending behind it.  The
last line needs none unless it is empty.
-/
inductive LinesWrittenAs : List String → List Char → Prop where
  | nothing : LinesWrittenAs [] []
  | unclosed
      {line : String}
      (isOneLine : '\n' ∉ line.toList)
      (notEmpty : line ≠ "") :
      LinesWrittenAs [line] line.toList
  | lineFeed
      {line : String}
      {lines : List String}
      {characters : List Char}
      (isOneLine : '\n' ∉ line.toList)
      (noReturn : line.toList.getLast? ≠ some '\r')
      (rest : LinesWrittenAs lines characters) :
      LinesWrittenAs (line :: lines) (line.toList ++ '\n' :: characters)
  | returnLineFeed
      {line : String}
      {lines : List String}
      {characters : List Char}
      (isOneLine : '\n' ∉ line.toList)
      (rest : LinesWrittenAs lines characters) :
      LinesWrittenAs (line :: lines) (line.toList ++ '\r' :: '\n' :: characters)

/-- On a line without line feeds no character is one. -/
theorem beq_lineFeed_eq_false
    {line : List Char}
    (isOneLine : '\n' ∉ line) :
    ∀ character ∈ line, (character == '\n') = false := by
  intro character member
  rw [beq_eq_false_iff_ne]
  rintro rfl
  exact isOneLine member

/-- The first line feed closes the first line. -/
theorem map_withoutEnding_cutAfter
    {line : List Char}
    (isOneLine : '\n' ∉ line)
    (rest : List Char) :
    (cutAfter (· == '\n') (line ++ '\n' :: rest)).map withoutEnding =
      withoutEnding (line ++ ['\n']) ::
        (cutAfter (· == '\n') rest).map withoutEnding := by
  have closes : (('\n' : Char) == '\n') = true := rfl
  have pieces :=
    @cutAfter_append_cons _ (· == '\n') '\n' closes line rest
  rw [cutAfter_append_singleton (beq_lineFeed_eq_false isOneLine) closes]
    at pieces
  rw [pieces]
  rfl

/-- Lines are found as they were written, whatever their endings are. -/
theorem LinesWrittenAs.lines_eq
    {lines : List String}
    {text : String}
    (written : LinesWrittenAs lines text.toList) :
    Text.lines text = lines.map String.toList := by
  unfold Text.lines
  generalize text.toList = characters at written
  induction written with
  | nothing =>
      rfl
  | @unclosed line isOneLine notEmpty =>
      have hasCharacters : line.toList ≠ [] := by
        simpa using notEmpty
      rw [cutAfter_of_noneCloses (beq_lineFeed_eq_false isOneLine)
        hasCharacters, List.map_singleton,
        withoutEnding_of_noLineFeed isOneLine]
      rfl
  | @lineFeed line lines characters isOneLine noReturn rest hypothesis =>
      rw [map_withoutEnding_cutAfter isOneLine, hypothesis,
        withoutEnding_lineFeed noReturn]
      rfl
  | @returnLineFeed line lines characters isOneLine rest hypothesis =>
      have withReturn : '\n' ∉ line.toList ++ ['\r'] := by
        simpa using isOneLine
      have cut := map_withoutEnding_cutAfter withReturn characters
      rw [hypothesis, withoutEnding_returnLineFeed, List.append_assoc] at cut
      exact cut

end Text

section Files

variable {files : Files}
variable {path : String}
variable {lines : List String}
variable {text : String}

/-- A store holds the lines that were written, and none that it held before. -/
theorem LineStore.load_of_written
    (written : Text.LinesWrittenAs lines text.toList)
    (holds : files path = some text.toUTF8)
    (store : LineStore) :
    store.load files path = (true, ⟨lines.map Line.ofText⟩) := by
  simp only [load, holds, linesOfContent]
  rw [Text.ofBytes_toUTF8, written.lines_eq, List.map_map]
  rfl

/-- The tokens of a file are decided by the lines that were written to it. -/
theorem tokensOfFile_of_written
    (written : Text.LinesWrittenAs lines text.toList)
    (holds : files path = some text.toUTF8) :
    tokensOfFile files path =
      Scan.tokens (Cursor.ofLines (lines.map Line.ofText)) := by
  simp only [tokensOfFile, Cursor.ofFile,
    LineStore.load_of_written written holds]

/--
Whatever the endings are that lines are written with, reading the file gives
the lines, and each of them knows its characters and how many there are.  So
two files that differ in their line endings only have the same tokens at the
same positions, or fail in the same way.
-/
theorem LineStore.load_written_and_tokens
    (written : Text.LinesWrittenAs lines text.toList)
    (holds : files path = some text.toUTF8) :
    (∀ store : LineStore, ∃ loaded : LineStore,
      store.load files path = (true, loaded) ∧
        loaded.lines.map Line.text = lines ∧
        ∀ line ∈ loaded.lines,
          line.length = line.text.length ∧
            ∀ column, line.get? column = line.text.toList[column]?) ∧
      ∀ (otherFiles : Files) (otherPath other : String),
        Text.LinesWrittenAs lines other.toList →
          otherFiles otherPath = some other.toUTF8 →
            tokensOfFile otherFiles otherPath = tokensOfFile files path := by
  constructor
  · intro store
    refine ⟨_, load_of_written written holds store, ?_, ?_⟩
    · simp [Line.text, Line.ofText, Function.comp_def]
    · intro line member
      simp [Line.length, Line.get?, Line.text]
  · intro otherFiles otherPath other otherWritten otherHolds
    rw [tokensOfFile_of_written otherWritten otherHolds,
      tokensOfFile_of_written written holds]

end Files

/-- Three lines, the first with a carriage return of its own. -/
def returnThenEmptyLine : List String :=
  ["x\r", "", "é"]

/-- The lines with endings of both kinds, and with only one kind. -/
def sameLines : Files
  | "open.owl" => some "x\r\r\n\né".toUTF8
  | "closed.owl" => some "x\r\r\n\r\né\r\n".toUTF8
  | _ => none

/--
A return at a line end and an empty line, with and without a last line feed.
-/
theorem LineStore.returnThenEmptyLine_load_and_tokens :
    Text.LinesWrittenAs returnThenEmptyLine "x\r\r\n\né".toList ∧
      sameLines "open.owl" = some "x\r\r\n\né".toUTF8 ∧
      (∃ loaded : LineStore,
        (LineStore.mk [⟨['y']⟩]).load sameLines "open.owl" = (true, loaded) ∧
          loaded.lines.map Line.text = returnThenEmptyLine) ∧
      Text.LinesWrittenAs returnThenEmptyLine "x\r\r\n\r\né\r\n".toList ∧
      tokensOfFile sameLines "closed.owl" =
        tokensOfFile sameLines "open.owl" := by
  have openWritten :
      Text.LinesWrittenAs returnThenEmptyLine "x\r\r\n\né".toList :=
    .returnLineFeed (by decide)
      (.lineFeed (by decide) (by decide) (.unclosed (by decide) (by decide)))
  have closedWritten :
      Text.LinesWrittenAs returnThenEmptyLine "x\r\r\n\r\né\r\n".toList :=
    .returnLineFeed (by decide)
      (.returnLineFeed (by decide) (.returnLineFeed (by decide) .nothing))
  obtain ⟨found, sameTokens⟩ :=
    @load_written_and_tokens sameLines "open.owl" _ _ openWritten rfl
  obtain ⟨loaded, isLoaded, sameText, -⟩ := found ⟨[⟨['y']⟩]⟩
  exact ⟨openWritten, rfl, ⟨loaded, isLoaded, sameText⟩, closedWritten,
    sameTokens sameLines "closed.owl" _ closedWritten rfl⟩

end OwlScript
