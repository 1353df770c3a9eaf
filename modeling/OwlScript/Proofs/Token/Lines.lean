import OwlScript.Proofs.Token.Surroundings

namespace OwlScript

/-!
# Scanning line by line

The tokens of a file are the tokens of its lines, each line scanned as a text
by itself.  The induction is on the lines: the scan of a file comes to the end
of its first line with the tokens of that line, and goes on from there as a
scan of the lines behind it.
-/

/-- The characters of lines that are numbered from the given number on. -/
def locateFrom (number : Nat) : List Line → List SourceCharacter
  | [] => []
  | line :: rest => locateLine number line ++ locateFrom (number + 1) rest

/-- The characters of lines, each with its number, follow each other. -/
theorem flatten_mapIdx_locateLine
    (number : Nat)
    (lines : List Line) :
    (lines.mapIdx fun index line =>
      locateLine (index + number) line).flatten =
      locateFrom number lines := by
  induction lines generalizing number with
  | nil =>
      rfl
  | cons line rest hypothesis =>
      rw [List.mapIdx_cons, List.flatten_cons, Nat.zero_add, locateFrom,
        ← hypothesis (number + 1)]
      have shifted (index : Nat) :
          index + 1 + number = index + (number + 1) := by
        omega
      simp only [shifted]

/-- The characters of a file are those of its lines from the first on. -/
theorem locateLines_eq_locateFrom (lines : List Line) :
    locateLines lines = locateFrom 1 lines :=
  flatten_mapIdx_locateLine 1 lines

/-- The characters of a line are on that line. -/
theorem line_of_mem_locateLine
    {number : Nat}
    {line : Line}
    {character : SourceCharacter}
    (member : character ∈ locateLine number line) :
    character.position.line = number := by
  unfold locateLine at member
  obtain ⟨index, _, same⟩ := List.mem_mapIdx.mp member
  rw [← same]

/-- The characters of lines are on none in front of the first. -/
theorem le_line_of_mem_locateFrom
    {number : Nat}
    {lines : List Line}
    {character : SourceCharacter}
    (member : character ∈ locateFrom number lines) :
    number ≤ character.position.line := by
  induction lines generalizing number with
  | nil =>
      cases member
  | cons line rest hypothesis =>
      rcases List.mem_append.mp member with inFirst | inRest
      · exact Nat.le_of_eq (line_of_mem_locateLine inFirst).symm
      · have later := hypothesis inRest
        omega

/-- The characters of a line differ from those of another only in the line. -/
theorem map_onLine_locateLine
    (number other : Nat)
    (line : Line) :
    (locateLine other line).map (·.onLine number) =
      locateLine number line := by
  apply List.ext_getElem
  · simp [locateLine]
  · simp [locateLine, SourceCharacter.onLine]

/-- The position behind the last character of the last line that has any. -/
def endPositionOfLines (lines : List Line) : Position :=
  match ((lines.zipIdx 1).filter fun entry => !entry.1.isEmpty).getLast? with
  | some (line, number) => ⟨number, line.length + 1⟩
  | none => ⟨1, 1⟩

/-- The last position of a line that is not empty is its length. -/
theorem getLast?_locateLine
    (number : Nat)
    (line : Line) :
    (locateLine number line).getLast?.map SourceCharacter.position =
      if line.isEmpty then none else some ⟨number, line.length⟩ := by
  unfold locateLine Line.isEmpty Line.length
  rw [List.getLast?_mapIdx]
  cases line.characters with
  | nil =>
      rfl
  | cons first rest =>
      simp [List.getLast?_cons]

/-- The last position of lines is that of the last line that is not empty. -/
theorem getLast?_locateFrom
    (number : Nat)
    (lines : List Line) :
    (locateFrom number lines).getLast?.map SourceCharacter.position =
      ((lines.zipIdx number).filter fun entry =>
        !entry.1.isEmpty).getLast?.map
        fun entry => ⟨entry.2, entry.1.length⟩ := by
  induction lines generalizing number with
  | nil =>
      rfl
  | cons line rest hypothesis =>
      have first := getLast?_locateLine number line
      have later := hypothesis (number + 1)
      rw [locateFrom, List.getLast?_append, List.zipIdx_cons, List.filter_cons,
        Option.map_or, later, first]
      cases line.isEmpty with
      | true =>
          simp only [Bool.not_true, Bool.false_eq_true, ↓reduceIte,
            Option.or_none]
      | false =>
          simp only [Bool.not_false, Bool.false_eq_true, ↓reduceIte,
            List.getLast?_cons]
          cases ((rest.zipIdx (number + 1)).filter fun entry =>
              !entry.1.isEmpty).getLast? with
          | none =>
              rfl
          | some last =>
              rfl

/-- The end token of a file stands behind its last character. -/
theorem endToken_ofLines (lines : List Line) :
    Scan.endToken (Cursor.ofLines lines) =
      ⟨.endOfInput, "", endPositionOfLines lines⟩ := by
  have last :
      (Cursor.ofLines lines).last?.map SourceCharacter.position =
        ((lines.zipIdx 1).filter fun entry =>
          !entry.1.isEmpty).getLast?.map
          fun entry => ⟨entry.2, entry.1.length⟩ := by
    rw [Scan.last?_eq_getLast?, Cursor.characters_ofLines,
      locateLines_eq_locateFrom, getLast?_locateFrom]
  unfold Scan.endToken Cursor.endPosition endPositionOfLines
  cases ended :
      ((lines.zipIdx 1).filter fun entry => !entry.1.isEmpty).getLast? with
  | none =>
      rw [ended, Option.map_none, Option.map_eq_none_iff] at last
      rw [last]
      rfl
  | some entry =>
      rw [ended, Option.map_some, Option.map_eq_some_iff] at last
      obtain ⟨character, isLast, placed⟩ := last
      rw [isLast]
      simp only [placed]

namespace Scan

/--
The tokens of lines that are numbered from the given number on, each line
scanned by itself, closed by one end token.
-/
def tokensOfLines
    (ending : Token) :
    Nat → List Line → Except Failure (List Token)
  | _, [] => .ok [ending]
  | number, line :: rest =>
      joined number (tokensOfText line.text)
        (tokensOfLines ending (number + 1) rest)

/-- A line that is scanned has its tokens in front of those of the rest. -/
theorem tokensOfLines_cons_of_ok
    {line : Line}
    {found : List Token}
    (scanned : tokensOfText line.text = .ok found)
    (ending : Token)
    (number : Nat)
    (rest : List Line) :
    tokensOfLines ending number (line :: rest) =
      (tokensOfLines ending (number + 1) rest).map
        (tokensOnLine number found ++ ·) := by
  rw [tokensOfLines, scanned]
  rfl

/-- A line that fails makes all lines fail where it fails. -/
theorem tokensOfLines_cons_of_error
    {line : Line}
    {failure : Failure}
    (failed : tokensOfText line.text = .error failure)
    (ending : Token)
    (number : Nat)
    (rest : List Line) :
    tokensOfLines ending number (line :: rest) =
      .error (failure.onLine number) := by
  rw [tokensOfLines, failed]
  rfl

/-- Lines are scanned if each of them is scanned by itself. -/
theorem exists_tokensOfLines_eq_ok_iff
    (ending : Token)
    (number : Nat)
    (lines : List Line) :
    (∃ found, tokensOfLines ending number lines = .ok found) ↔
      ∀ line ∈ lines, ∃ found, tokensOfText line.text = .ok found := by
  induction lines generalizing number with
  | nil =>
      exact ⟨fun _ => nofun, fun _ => ⟨[ending], rfl⟩⟩
  | cons line rest hypothesis =>
      rw [tokensOfLines, exists_joined_eq_ok_iff, hypothesis (number + 1),
        List.forall_mem_cons]

/-- If every line is scanned, the tokens of the lines stand in their order. -/
theorem tokensOfLines_eq_ok
    {lines : List Line}
    {scanned : List (List Token)}
    (each :
      lines.map (fun line => tokensOfText line.text) = scanned.map .ok)
    (ending : Token)
    (number : Nat) :
    tokensOfLines ending number lines =
      .ok ((scanned.mapIdx fun index found =>
        tokensOnLine (index + number) found).flatten ++ [ending]) := by
  induction lines generalizing number scanned with
  | nil =>
      have nothing : scanned = [] := by
        simpa using each
      rw [nothing]
      rfl
  | cons line rest hypothesis =>
      cases scanned with
      | nil =>
          simp at each
      | cons first later =>
          rw [List.map_cons, List.map_cons, List.cons.injEq] at each
          have shifted (index : Nat) :
              index + 1 + number = index + (number + 1) := by
            omega
          rw [tokensOfLines_cons_of_ok each.1,
            hypothesis each.2 (number + 1), List.mapIdx_cons,
            List.flatten_cons, Nat.zero_add, List.append_assoc]
          simp only [shifted]
          rfl

/-- The first line that cannot be scanned is the one that is reported. -/
theorem tokensOfLines_eq_error
    {lines : List Line}
    {index : Nat}
    {line : Line}
    {failure : Failure}
    (atIndex : lines[index]? = some line)
    (earlier :
      ∀ other ∈ lines.take index,
        ∃ found, tokensOfText other.text = .ok found)
    (failed : tokensOfText line.text = .error failure)
    (ending : Token)
    (number : Nat) :
    tokensOfLines ending number lines =
      .error (failure.onLine (index + number)) := by
  induction lines generalizing index number with
  | nil =>
      cases atIndex
  | cons first rest hypothesis =>
      cases index with
      | zero =>
          cases atIndex
          rw [Nat.zero_add, tokensOfLines_cons_of_error failed]
      | succ index =>
          rw [List.take_succ_cons, List.forall_mem_cons] at earlier
          obtain ⟨⟨found, scanned⟩, earlierInRest⟩ := earlier
          have inRest := hypothesis atIndex earlierInRest (number + 1)
          have shifted : index + 1 + number = index + (number + 1) := by
            omega
          rw [tokensOfLines_cons_of_ok scanned, inRest, shifted]
          rfl

/-- The cursor on the text of a line has the characters of the line. -/
theorem characters_ofText (line : Line) :
    (Cursor.ofText line.text).characters = locateLine 1 line := by
  unfold Cursor.ofText Line.ofText Line.text
  rw [Cursor.characters_ofLines, locateLines_eq_locateFrom]
  simp [locateFrom]

/-- The cursor on the text of a line is on the first line. -/
theorem isOnLine_ofText (line : Line) :
    (Cursor.ofText line.text).IsOnLine 1 := by
  intro character member
  rw [characters_ofText] at member
  exact line_of_mem_locateLine member

/-- A scan of lines behind each other scans each line by itself. -/
theorem tokens_locateFrom
    (lineCount number : Nat)
    (before : List SourceCharacter)
    (lines : List Line) :
    tokens ⟨lineCount, before, locateFrom number lines⟩ =
      tokensOfLines
        (endToken ⟨lineCount, before, locateFrom number lines⟩) number
        lines := by
  induction lines generalizing number before with
  | nil =>
      exact tokens_of_ended rfl
  | cons line rest hypothesis =>
      -- The first line is scanned as if it stood alone, between what is before
      -- it and behind it.
      let around : Surroundings :=
        { lineCount := lineCount
          line := number
          before := before
          behind := locateFrom (number + 1) rest
          apart := by
            intro character member
            have beyond := le_line_of_mem_locateFrom member
            omega }
      have ahead : (Cursor.ofText line.text).ahead = locateLine 1 line :=
        characters_ofText line
      have whole :
          (⟨lineCount, before, locateFrom number (line :: rest)⟩ : Cursor) =
            around.cursor (Cursor.ofText line.text) := by
        unfold Surroundings.cursor
        rw [ahead, map_onLine_locateLine]
        rfl
      have behind :
          around.behindLine (Cursor.ofText line.text) =
            ⟨lineCount, (locateLine number line).reverse ++ before,
              locateFrom (number + 1) rest⟩ := by
        unfold Surroundings.behindLine
        rw [characters_ofText, map_onLine_locateLine]
      have later :=
        hypothesis (number + 1) ((locateLine number line).reverse ++ before)
      -- The end token is that of the whole text, whichever line it is reached
      -- from.
      have sameEnd :
          endToken
              ⟨lineCount, (locateLine number line).reverse ++ before,
                locateFrom (number + 1) rest⟩ =
            endToken
              ⟨lineCount, before, locateFrom number (line :: rest)⟩ := by
        apply endToken_eq_of_characters
        simp [Cursor.characters, locateFrom]
      rw [sameEnd] at later
      rw [whole] at later ⊢
      rw [around.tokens_eq _ (isOnLine_ofText line), behind, later]
      rfl

/-- A file is scanned as its lines are. -/
theorem tokensOfFile_eq_tokensOfLines
    {files : Files}
    {path : String}
    {content : ByteArray}
    (readable : files path = some content) :
    tokensOfFile files path =
      tokensOfLines
        ⟨.endOfInput, "", endPositionOfLines (linesOfContent content)⟩ 1
        (linesOfContent content) := by
  have scanned :=
    tokens_locateFrom (linesOfContent content).length 1 []
      (linesOfContent content)
  rw [← locateLines_eq_locateFrom] at scanned
  have ending := endToken_ofLines (linesOfContent content)
  unfold Cursor.ofLines at ending
  rw [ending] at scanned
  unfold tokensOfFile Cursor.ofFile LineStore.load
  rw [readable]
  exact scanned

/-- What fails in a text is on its only line. -/
theorem exists_of_tokensOfText_eq_error
    {line : Line}
    {failure : Failure}
    (failed : tokensOfText line.text = .error failure) :
    ∃ column, failure = unterminatedString ⟨1, column⟩ := by
  obtain ⟨character, member, -, same⟩ := exists_of_tokens_eq_error _ failed
  have onLine := isOnLine_ofText line character member
  rw [← onLine]
  exact ⟨character.position.column, same⟩

end Scan

/--
A file is scanned line by line.  Its scan succeeds if the scan of each line as
a text by itself does; it finds the tokens of the lines in their order, and
ends behind the last character of the last line that has any.  If the scan of
a line fails, the first such line is reported.
-/
theorem tokensOfFile_linewise
    {files : Files}
    {path : String}
    {content : ByteArray}
    (readable : files path = some content) :
    ((∃ found, tokensOfFile files path = .ok found) ↔
      ∀ line ∈ linesOfContent content,
        ∃ found, tokensOfText line.text = .ok found) ∧
    (∀ scanned : List (List Token),
      (linesOfContent content).map (fun line => tokensOfText line.text) =
          scanned.map .ok →
        tokensOfFile files path =
          .ok ((scanned.mapIdx fun index found =>
              Scan.tokensOnLine (index + 1) found).flatten ++
            [⟨.endOfInput, "", endPositionOfLines (linesOfContent content)⟩])) ∧
    (∀ (index : Nat) (line : Line) (failure : Failure),
      (linesOfContent content)[index]? = some line →
        (∀ other ∈ (linesOfContent content).take index,
          ∃ found, tokensOfText other.text = .ok found) →
        tokensOfText line.text = .error failure →
        ∃ column,
          failure = Scan.unterminatedString ⟨1, column⟩ ∧
            tokensOfFile files path =
              .error (Scan.unterminatedString ⟨index + 1, column⟩)) := by
  rw [Scan.tokensOfFile_eq_tokensOfLines readable]
  refine ⟨Scan.exists_tokensOfLines_eq_ok_iff _ _ _, ?_, ?_⟩
  · intro scanned each
    exact Scan.tokensOfLines_eq_ok each _ 1
  · intro index line failure atIndex earlier failed
    obtain ⟨column, same⟩ := Scan.exists_of_tokensOfText_eq_error failed
    refine ⟨column, same, ?_⟩
    rw [Scan.tokensOfLines_eq_error atIndex earlier failed, same]
    rfl

/--
A point at the end of a line does not reach over to the digit behind, and a
string does not reach over to the quote behind.
-/
theorem tokensOfFile_point_and_quote_at_line_end :
    tokensOfFile (fun _ => some "1.\n\n5".toUTF8) "point.owl" =
        .ok
          [⟨.integer, "1", ⟨1, 1⟩⟩, ⟨.unknown, ".", ⟨1, 2⟩⟩,
            ⟨.integer, "5", ⟨3, 1⟩⟩, ⟨.endOfInput, "", ⟨3, 2⟩⟩] ∧
      tokensOfFile (fun _ => some "/\n \"a\n\"".toUTF8) "quote.owl" =
        .error (Scan.unterminatedString ⟨2, 2⟩) := by
  constructor
  · have linewise :=
      @tokensOfFile_linewise (fun _ => some "1.\n\n5".toUTF8) "point.owl" _ rfl
    exact linewise.2.1
      [[⟨.integer, "1", ⟨1, 1⟩⟩, ⟨.unknown, ".", ⟨1, 2⟩⟩,
          ⟨.endOfInput, "", ⟨1, 3⟩⟩],
        [⟨.endOfInput, "", ⟨1, 1⟩⟩],
        [⟨.integer, "5", ⟨1, 1⟩⟩, ⟨.endOfInput, "", ⟨1, 2⟩⟩]]
      rfl
  · have linewise :=
      @tokensOfFile_linewise (fun _ => some "/\n \"a\n\"".toUTF8) "quote.owl"
        _ rfl
    have earlier :
        ∀ other ∈ [(⟨['/']⟩ : Line)],
          ∃ found, tokensOfText other.text = .ok found := by
      intro other member
      rw [List.mem_singleton.mp member]
      exact ⟨[⟨.slash, "/", ⟨1, 1⟩⟩, ⟨.endOfInput, "", ⟨1, 2⟩⟩], rfl⟩
    obtain ⟨column, same, failed⟩ :=
      linewise.2.2 1 ⟨[' ', '"', 'a']⟩ (Scan.unterminatedString ⟨1, 2⟩) rfl
        earlier rfl
    cases same
    exact failed

end OwlScript
