import OwlScript.Proofs.Program.Displacement
import OwlScript.Proofs.Text.JoinedLines
import OwlScript.Proofs.Token.Lines
import OwlScript.Proofs.Token.Partition

namespace OwlScript

/-!
# Files joined

Two files that are scanned by themselves are scanned when they are joined with
a semicolon between.  The line that is closed by the joining may lose a
carriage return, and one empty line may come into being.  Neither makes a
token or takes one, so the tokens of the whole are those of the one file, the
semicolon, and those of the other further down.
-/

namespace Scan

/-- The tokens of lines that are numbered from a number on, without an end. -/
inductive LineTokens : Nat → List Line → List Token → Prop where
  | nothing
      (number : Nat) :
      LineTokens number [] []
  | line
      {number : Nat}
      {line : Line}
      {rest : List Line}
      {found later : List Token}
      (scanned : tokensOfText line.text = .ok found)
      (behind : LineTokens (number + 1) rest later) :
      LineTokens number (line :: rest) (tokensOnLine number found ++ later)

/-- Lines that are scanned have the tokens found without the end token. -/
theorem exists_lineTokens
    {ending : Token}
    {number : Nat}
    {lines : List Line}
    {found : List Token}
    (scanned : tokensOfLines ending number lines = .ok found) :
    ∃ body, LineTokens number lines body ∧ found = body ++ [ending] := by
  induction lines generalizing number found with
  | nil =>
      cases scanned
      exact ⟨[], .nothing number, rfl⟩
  | cons line rest hypothesis =>
      obtain ⟨⟨first, firstScanned⟩, later, laterScanned⟩ :=
        (exists_joined_eq_ok_iff number _ _).1 ⟨found, scanned⟩
      obtain ⟨body, behind, rfl⟩ := hypothesis laterScanned
      rw [tokensOfLines_cons_of_ok firstScanned, laterScanned] at scanned
      cases scanned
      exact ⟨_, .line firstScanned behind, (List.append_assoc ..).symm⟩

namespace LineTokens

variable {number : Nat}
variable {lines front back : List Line}
variable {body first second : List Token}

/-- Lines with some tokens are scanned as these and the end token. -/
theorem tokensOfLines_eq
    (tokens : LineTokens number lines body)
    (ending : Token) :
    tokensOfLines ending number lines = .ok (body ++ [ending]) := by
  induction tokens with
  | nothing number =>
      rfl
  | line scanned behind hypothesis =>
      rw [tokensOfLines_cons_of_ok scanned, hypothesis, List.append_assoc]
      rfl

/-- The tokens of lines that follow others come behind those. -/
theorem append
    (frontTokens : LineTokens number front first)
    (backTokens : LineTokens (number + front.length) back second) :
    LineTokens number (front ++ back) (first ++ second) := by
  induction frontTokens with
  | nothing number =>
      exact backTokens
  | @line number line rest found later scanned behind hypothesis =>
      have shifted :
          number + (line :: rest).length = number + 1 + rest.length := by
        rw [List.length_cons]
        omega
      rw [shifted] at backTokens
      rw [List.append_assoc]
      exact .line scanned (hypothesis backTokens)

/-- The tokens of lines in two parts are those of each part. -/
theorem exists_of_append
    (tokens : LineTokens number (front ++ back) body) :
    ∃ first second,
      body = first ++ second ∧ LineTokens number front first ∧
        LineTokens (number + front.length) back second := by
  induction front generalizing number body with
  | nil =>
      exact ⟨[], body, rfl, .nothing number, tokens⟩
  | cons line rest hypothesis =>
      cases tokens with
      | line scanned behind =>
          obtain ⟨first, second, rfl, frontTokens, backTokens⟩ :=
            hypothesis behind
          have shifted :
              number + (line :: rest).length = number + 1 + rest.length := by
            rw [List.length_cons]
            omega
          rw [shifted]
          exact ⟨_, second, (List.append_assoc ..).symm,
            .line scanned frontTokens, backTokens⟩

/-- Lines further down have the same tokens further down. -/
theorem furtherDown
    (tokens : LineTokens number lines body)
    (lineCount : Nat) :
    LineTokens (number + lineCount) lines
      (body.map (Token.moved (Position.below lineCount))) := by
  induction tokens with
  | nothing number =>
      exact .nothing _
  | @line number line rest found later scanned behind hypothesis =>
      have onLine :
          (tokensOnLine number found).map
              (Token.moved (Position.below lineCount)) =
            tokensOnLine (number + lineCount) found := by
        simp [tokensOnLine, Token.onLine, Token.moved, Position.below]
      rw [List.map_append, onLine]
      rw [Nat.add_right_comm] at hypothesis
      exact .line scanned hypothesis

/-- No token of a line is the end. -/
theorem kind_ne_endOfInput
    (tokens : LineTokens number lines body) :
    ∀ token ∈ body, token.kind ≠ .endOfInput := by
  induction tokens with
  | nothing number =>
      exact nofun
  | line scanned behind hypothesis =>
      rw [List.forall_mem_append]
      refine ⟨?_, hypothesis⟩
      intro token member
      obtain ⟨found, inFound, rfl⟩ := List.mem_map.1 member
      simpa [Token.onLine] using (List.mem_filter.1 inFound).2

end LineTokens

end Scan

/-- A span that could not go on could not go on with less behind it. -/
theorem TokenKind.EndsBefore.of_append
    {kind : TokenKind}
    {behind more : List Char}
    (ends : kind.EndsBefore (behind ++ more)) :
    kind.EndsBefore behind := by
  have stops
      {condition : Char → Bool}
      (stopsAt : StopsAt condition (behind ++ more)) :
      StopsAt condition behind := by
    intro character isFirst
    refine stopsAt character ?_
    cases behind with
    | nil =>
        cases isFirst
    | cons first rest =>
        exact isFirst
  cases kind with
  | integer =>
      refine ⟨stops ends.1, ?_⟩
      rintro digit rest rfl
      exact ends.2 digit (rest ++ more) rfl
  | identifier =>
      exact stops ends
  | keyword word =>
      exact stops ends
  | float =>
      exact stops ends
  | assign =>
      exact stops ends
  | bang =>
      exact stops ends
  | less =>
      exact stops ends
  | greater =>
      exact stops ends
  | slash =>
      exact stops ends
  | _ =>
      trivial

/-- No span ends in a carriage return. -/
theorem IsSpan.getLast?_ne_return
    {kind : TokenKind}
    {lexeme span : List Char}
    (isSpan : IsSpan kind lexeme span) :
    span.getLast? ≠ some '\r' := by
  have notMember
      {condition : Char → Bool}
      {characters : List Char}
      (holds : ∀ character ∈ characters, condition character = true)
      (fails : condition '\r' = false) :
      characters.getLast? ≠ some '\r' := by
    intro isLast
    rw [holds '\r' (List.mem_of_getLast? isLast)] at fails
    cases fails
  have plain : ∀ entry ∈ plainSigns, entry.1 ≠ '\r' := by
    decide
  have equal : ∀ entry ∈ equalSigns, entry.1 ≠ '\r' := by
    decide
  cases isSpan with
  | identifier begins continues noKeyword =>
      exact notMember
        (List.forall_mem_cons.2
          ⟨Scan.continuesWord_of_beginsWord begins, continues⟩)
        (by decide +kernel)
  | keyword word =>
      cases word <;> decide
  | integer notEmpty areDigits =>
      exact notMember areDigits (by decide)
  | @float whole fraction wholeNotEmpty fractionNotEmpty wholeDigits
      fractionDigits =>
      refine @notMember (fun character => character.isDigit || character == '.')
        _ ?_ (by decide)
      intro character member
      rcases List.mem_append.1 member with inWhole | behind
      · simp [wholeDigits character inWhole]
      · rcases List.mem_cons.1 behind with isPoint | inFraction
        · simp [isPoint]
        · simp [fractionDigits character inFraction]
  | string decodes =>
      rw [List.getLast?_concat]
      decide
  | slash =>
      decide
  | plainSign member =>
      simpa using plain _ member
  | bareSign member =>
      simpa using equal _ member
  | pairedSign member =>
      simp
  | unknown notBlank beginsNoWord notDigit notQuote notSign =>
      intro isLast
      cases isLast
      cases notBlank

namespace Splits

/-- Nothing is split into the end token alone. -/
theorem eq_of_nil
    {column : Nat}
    {found : List Token}
    (splits : Splits column [] found) :
    found = [⟨.endOfInput, "", ⟨1, column⟩⟩] := by
  generalize empty : [] = characters at splits
  cases splits with
  | nothing column =>
      rfl
  | blank isBlank later =>
      cases empty
  | comment column rest =>
      cases empty
  | token isSpan ends longest later =>
      obtain ⟨first, rest, rfl, _⟩ := isSpan.exists_cons
      cases empty

/-- A carriage return at the end of a text makes no token and takes none. -/
theorem exists_of_append_return
    {column : Nat}
    {text : List Char}
    {found : List Token}
    (splits : Splits column (text ++ ['\r']) found) :
    ∃ others,
      Splits column text others ∧
        ∀ number,
          Scan.tokensOnLine number others =
            Scan.tokensOnLine number found := by
  generalize whole : text ++ ['\r'] = characters at splits
  induction splits generalizing text with
  | nothing column =>
      simp at whole
  | @blank column character rest found isBlank later hypothesis =>
      cases text with
      | nil =>
          cases whole
          refine ⟨_, .nothing column, ?_⟩
          intro number
          rw [later.eq_of_nil]
          rfl
      | cons first text =>
          cases whole
          obtain ⟨others, splits, same⟩ := hypothesis rfl
          exact ⟨others, .blank isBlank splits, same⟩
  -- The return is no slash, so the comment reaches up to it.
  | comment column rest =>
      match text with
      | [] =>
          cases whole
      | [first] =>
          cases whole
      | first :: second :: text =>
          cases whole
          exact ⟨_, .comment column text, fun _ => rfl⟩
  | @token column kind lexeme span behind found isSpan ends longest later
      hypothesis =>
      -- No span ends in the carriage return, so it stands behind this one.
      rcases List.eq_nil_or_concat behind with rfl | ⟨earlier, last, rfl⟩
      · rw [List.append_nil] at whole
        have isLast : span.getLast? = some '\r' := by
          rw [← whole, List.getLast?_concat]
        exact absurd isLast isSpan.getLast?_ne_return
      · rw [List.concat_eq_append, ← List.append_assoc] at whole
        obtain ⟨rfl, isReturn⟩ := List.append_inj' whole rfl
        cases isReturn
        obtain ⟨others, splits, same⟩ :=
          hypothesis (List.concat_eq_append ..).symm
        rw [List.concat_eq_append] at ends
        refine ⟨_, .of_isSpan isSpan ends.of_append splits, ?_⟩
        intro number
        rw [Scan.tokensOnLine_cons isSpan.kind_ne_endOfInput,
          Scan.tokensOnLine_cons isSpan.kind_ne_endOfInput, same]

end Splits

namespace Scan

/-- An empty line has no tokens. -/
theorem LineTokens.ofEmpty (number : Nat) :
    LineTokens number [⟨[]⟩] [] :=
  @LineTokens.line _ ⟨[]⟩ _ [⟨.endOfInput, "", ⟨1, 1⟩⟩] _ rfl (.nothing _)

/-- A last line has the same tokens when it is closed. -/
theorem LineTokens.ofClosed
    {number : Nat}
    {last : List (List Char)}
    {kept : List Char}
    {body : List Token}
    (tokens : LineTokens number (last.map Line.mk) body)
    (cases :
      last = [] ∧ kept = [] ∨ last = [kept] ∨ last = [kept ++ ['\r']]) :
    LineTokens number [⟨kept⟩] body := by
  rcases cases with ⟨rfl, rfl⟩ | rfl | rfl
  · cases tokens with
    | nothing number =>
        exact .ofEmpty number
  · exact tokens
  · cases tokens with
    | @line _ _ _ found later scanned behind =>
        have splits := (tokensOfText_eq_ok_iff_splits _ _).1 scanned
        rw [Line.text, String.toList_ofList] at splits
        obtain ⟨others, otherSplits, same⟩ := splits.exists_of_append_return
        have otherScanned :
            tokensOfText (Line.text ⟨kept⟩) = .ok others := by
          rw [tokensOfText_eq_ok_iff_splits, Line.text, String.toList_ofList]
          exact otherSplits
        rw [← same]
        exact .line otherScanned behind

/-- A line of one semicolon has that token. -/
theorem LineTokens.ofSemicolon (number : Nat) :
    LineTokens number [⟨[';']⟩] [⟨.semicolon, ";", ⟨number, 1⟩⟩] :=
  @LineTokens.line _ ⟨[';']⟩ _
    [⟨.semicolon, ";", ⟨1, 1⟩⟩, ⟨.endOfInput, "", ⟨1, 2⟩⟩] _ rfl (.nothing _)

/--
The lines of two texts joined have the tokens of both with a semicolon
between, those of the second text as far down as it begins.
-/
theorem LineTokens.joined
    {first second : String}
    {firstBody secondBody : List Token}
    (firstTokens : LineTokens 1 ((Text.lines first).map Line.mk) firstBody)
    (secondTokens :
      LineTokens 1 ((Text.lines second).map Line.mk) secondBody) :
    ∃ separator : Token, separator.kind = .semicolon ∧
      LineTokens 1
        ((Text.lines (first ++ Text.joint ++ second)).map Line.mk)
        (firstBody ++ separator ::
          secondBody.map
            (Token.moved
              (Position.below
                (Text.lines (first ++ Text.joint)).length))) := by
  obtain ⟨closed, last, kept, own, lastLine, lineCount, whole⟩ :=
    Text.exists_lines_joined first
  rw [own, List.map_append] at firstTokens
  obtain ⟨closedBody, lastBody, rfl, closedTokens, lastTokens⟩ :=
    firstTokens.exists_of_append
  refine ⟨⟨.semicolon, ";", ⟨1 + closed.length + 1, 1⟩⟩, rfl, ?_⟩
  rw [whole, lineCount, List.map_append, List.append_assoc]
  refine closedTokens.append ?_
  refine (lastTokens.ofClosed lastLine).append ?_
  rw [List.length_map, List.length_singleton]
  refine (LineTokens.ofSemicolon _).append ?_
  have further := secondTokens.furtherDown (closed.length + 2)
  have sameNumber :
      1 + (closed.length + 2) = 1 + closed.length + 1 + 1 := by
    omega
  rw [sameNumber] at further
  exact further

end Scan

section Files

variable {files : Files}
variable {path text : String}

/-- A file that holds a text is scanned as the lines of the text. -/
theorem tokensOfFile_eq_tokensOfLines_text
    (holds : files path = some text.toUTF8) :
    ∃ position,
      tokensOfFile files path =
        Scan.tokensOfLines ⟨.endOfInput, "", position⟩ 1
          ((Text.lines text).map Line.mk) := by
  have scanned := Scan.tokensOfFile_eq_tokensOfLines holds
  rw [linesOfContent, Text.ofBytes_toUTF8] at scanned
  exact ⟨_, scanned⟩

/--
Two files joined are scanned if both are.  Their tokens are those of the first
file, a semicolon, and those of the second file further down.
-/
theorem tokensOfFile_joined
    {firstPath secondPath joinedPath first second : String}
    {firstTokens secondTokens : List Token}
    (firstHolds : files firstPath = some first.toUTF8)
    (secondHolds : files secondPath = some second.toUTF8)
    (joinedHolds :
      files joinedPath = some (first ++ Text.joint ++ second).toUTF8)
    (firstScanned : tokensOfFile files firstPath = .ok firstTokens)
    (secondScanned : tokensOfFile files secondPath = .ok secondTokens) :
    ∃ firstBody secondBody firstEnd secondEnd joinedEnd separator,
      (∀ token ∈ firstBody ++ secondBody, token.kind ≠ .endOfInput) ∧
        firstEnd.kind = .endOfInput ∧
        secondEnd.kind = .endOfInput ∧
        joinedEnd.kind = .endOfInput ∧
        separator.kind = .semicolon ∧
        firstTokens = firstBody ++ [firstEnd] ∧
        secondTokens = secondBody ++ [secondEnd] ∧
        tokensOfFile files joinedPath =
          .ok
            (firstBody ++ separator ::
              secondBody.map
                (Token.moved
                  (Position.below
                    (Text.lines (first ++ Text.joint)).length)) ++
              [joinedEnd]) := by
  obtain ⟨firstPosition, firstLines⟩ :=
    tokensOfFile_eq_tokensOfLines_text firstHolds
  obtain ⟨secondPosition, secondLines⟩ :=
    tokensOfFile_eq_tokensOfLines_text secondHolds
  obtain ⟨joinedPosition, joinedLines⟩ :=
    tokensOfFile_eq_tokensOfLines_text joinedHolds
  rw [firstLines] at firstScanned
  rw [secondLines] at secondScanned
  obtain ⟨firstBody, firstLineTokens, rfl⟩ :=
    Scan.exists_lineTokens firstScanned
  obtain ⟨secondBody, secondLineTokens, rfl⟩ :=
    Scan.exists_lineTokens secondScanned
  obtain ⟨separator, separates, joinedTokens⟩ :=
    firstLineTokens.joined secondLineTokens
  refine ⟨firstBody, secondBody, _, _, ⟨.endOfInput, "", joinedPosition⟩,
    separator, ?_, rfl, rfl, rfl, separates, rfl, rfl, ?_⟩
  · rw [List.forall_mem_append]
    exact ⟨firstLineTokens.kind_ne_endOfInput,
      secondLineTokens.kind_ne_endOfInput⟩
  · rw [joinedLines]
    exact joinedTokens.tokensOfLines_eq _

end Files

end OwlScript
