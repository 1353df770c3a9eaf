import OwlScript.Proofs.Except
import OwlScript.Proofs.Token.LongestSpans
import OwlScript.Proofs.Token.SpanScanning

namespace OwlScript

/-!
# The partition of a text into tokens

A text of one line is a sequence of blank characters and spans of tokens, with
at most one comment, which is the last.  A split says so without a scanner, and
the scanner finds the tokens of a split if there is one, and nothing else.
-/

/--
The tokens that a text from a column on is split into.  Every span is the
longest one at its place.
-/
inductive Splits : Nat → List Char → List Token → Prop where
  | nothing
      (column : Nat) :
      Splits column [] [⟨.endOfInput, "", ⟨1, column⟩⟩]
  | blank
      {column : Nat}
      {character : Char}
      {rest : List Char}
      {found : List Token}
      (isBlank : Text.isBlank character = true)
      (later : Splits (column + 1) rest found) :
      Splits column (character :: rest) found
  | comment
      (column : Nat)
      (rest : List Char) :
      Splits column ('/' :: '/' :: rest)
        [⟨.endOfInput, "", ⟨1, column + ('/' :: '/' :: rest).length⟩⟩]
  | token
      {column : Nat}
      {kind : TokenKind}
      {lexeme span behind : List Char}
      {found : List Token}
      (isSpan : IsSpan kind lexeme span)
      (ends : kind.EndsBefore behind)
      (longest :
        ∀ (otherKind : TokenKind) (otherLexeme other otherBehind : List Char),
          IsSpan otherKind otherLexeme other →
            other ++ otherBehind = span ++ behind →
              other.length ≤ span.length)
      (later : Splits (column + span.length) behind found) :
      Splits column (span ++ behind)
        (⟨kind, String.ofList lexeme, ⟨1, column⟩⟩ :: found)

namespace Splits

/-- A span that ends before what is behind it need not be compared. -/
theorem of_isSpan
    {column : Nat}
    {kind : TokenKind}
    {lexeme span behind : List Char}
    {found : List Token}
    (isSpan : IsSpan kind lexeme span)
    (ends : kind.EndsBefore behind)
    (later : Splits (column + span.length) behind found) :
    Splits column (span ++ behind)
      (⟨kind, String.ofList lexeme, ⟨1, column⟩⟩ :: found) :=
  .token isSpan ends (fun _ _ _ _ => isSpan.length_le ends) later

variable {column : Nat}
variable {text : List Char}
variable {found : List Token}

/-- No token stands in front of the text. -/
theorem le_column
    (splits : Splits column text found)
    {token : Token}
    (member : token ∈ found) :
    column ≤ token.position.column := by
  induction splits with
  | nothing column =>
      obtain rfl := List.mem_singleton.mp member
      exact Nat.le_refl _
  | blank isBlank later hypothesis =>
      exact Nat.le_of_succ_le (hypothesis member)
  | comment column rest =>
      obtain rfl := List.mem_singleton.mp member
      exact Nat.le_add_right _ _
  | token isSpan ends longest later hypothesis =>
      rcases List.mem_cons.mp member with rfl | isLater
      · exact Nat.le_refl _
      · exact Nat.le_trans (Nat.le_add_right _ _) (hypothesis isLater)

/-- Every token stands in a later column than those in front of it. -/
theorem columns_increase (splits : Splits column text found) :
    (found.map fun token => token.position.column).Pairwise (· < ·) := by
  induction splits with
  | nothing column =>
      exact List.pairwise_singleton _ _
  | blank isBlank later hypothesis =>
      exact hypothesis
  | comment column rest =>
      exact List.pairwise_singleton _ _
  | token isSpan ends longest later hypothesis =>
      rw [List.map_cons, List.pairwise_cons]
      refine ⟨?_, hypothesis⟩
      intro other member
      obtain ⟨token, isLater, rfl⟩ := List.mem_map.mp member
      have behindSpan := later.le_column isLater
      obtain ⟨first, rest, rfl, _⟩ := isSpan.exists_cons
      rw [List.length_cons] at behindSpan
      dsimp only
      omega

/-- The end token stands behind the whole text and nowhere else. -/
theorem exists_body (splits : Splits column text found) :
    ∃ body, found =
        body ++ [⟨.endOfInput, "", ⟨1, column + text.length⟩⟩] ∧
      ∀ token ∈ body, token.kind ≠ .endOfInput := by
  induction splits with
  | nothing column =>
      exact ⟨[], rfl, nofun⟩
  | @blank column character rest found isBlank later hypothesis =>
      obtain ⟨body, rfl, noEnd⟩ := hypothesis
      refine ⟨body, ?_, noEnd⟩
      rw [List.length_cons, Nat.add_assoc, Nat.add_comm 1]
  | comment column rest =>
      exact ⟨[], rfl, nofun⟩
  | @token column kind lexeme span behind found isSpan ends longest later
      hypothesis =>
      obtain ⟨body, rfl, noEnd⟩ := hypothesis
      refine ⟨⟨kind, String.ofList lexeme, ⟨1, column⟩⟩ :: body, ?_, ?_⟩
      · rw [List.length_append, Nat.add_assoc]
        rfl
      · rw [List.forall_mem_cons]
        exact ⟨isSpan.kind_ne_endOfInput, noEnd⟩

/-- Every token but the last has a span that begins in its column. -/
theorem exists_span_of_mem
    (splits : Splits column text found)
    {token : Token}
    (member : token ∈ found)
    (notEnd : token.kind ≠ .endOfInput) :
    ∃ front span behind, text = front ++ span ++ behind ∧
      token.position = ⟨1, column + front.length⟩ ∧
        IsSpan token.kind token.lexeme.toList span ∧
          token.kind.EndsBefore behind := by
  induction splits with
  | nothing column =>
      rw [List.mem_singleton.mp member] at notEnd
      exact absurd rfl notEnd
  | @blank column character rest found isBlank later hypothesis =>
      obtain ⟨front, span, behind, rfl, placed, isSpan, ends⟩ :=
        hypothesis member
      refine ⟨character :: front, span, behind, rfl, ?_, isSpan, ends⟩
      rw [placed, List.length_cons, Nat.add_assoc, Nat.add_comm 1]
  | comment column rest =>
      rw [List.mem_singleton.mp member] at notEnd
      exact absurd rfl notEnd
  | @token column kind lexeme span behind found isSpan ends longest later
      hypothesis =>
      rcases List.mem_cons.mp member with isFirst | isLater
      · rw [isFirst]
        refine ⟨[], span, behind, rfl, rfl, ?_, ends⟩
        rw [String.toList_ofList]
        exact isSpan
      · obtain ⟨front, other, otherBehind, rfl, placed, isOther, otherEnds⟩ :=
          hypothesis isLater
        refine ⟨span ++ front, other, otherBehind, ?_, ?_, isOther,
          otherEnds⟩
        · simp only [List.append_assoc]
        · rw [placed, List.length_append, Nat.add_assoc]

end Splits

namespace Scan

open Cursor

variable (front : List Char)

/-- Behind the whole text the end token has the next column. -/
theorem endToken_between_nil :
    endToken (between front []) =
      ⟨.endOfInput, "", ⟨1, front.length + 1⟩⟩ := by
  rcases List.eq_nil_or_concat front with rfl | ⟨earlier, last, rfl⟩
  · rfl
  · rw [List.concat_eq_append, between_append, List.length_append]
    rfl

/-- With nothing left there is the end token only. -/
theorem tokens_between_nil :
    tokens (between front []) =
      .ok [⟨.endOfInput, "", ⟨1, front.length + 1⟩⟩] := by
  rw [tokens_of_ended rfl, endToken_between_nil]

/-- A blank is passed without a token. -/
theorem tokens_between_blank
    {first : Char}
    (isBlank : Text.isBlank first = true)
    (rest : List Char) :
    tokens (between front (first :: rest)) =
      tokens (between (front ++ [first]) rest) := by
  rw [tokens_eq, here?_between]
  dsimp only
  rw [element_of_isBlank front isBlank]

/-- A comment is passed to the end of the text. -/
theorem tokens_between_comment (rest : List Char) :
    tokens (between front ('/' :: '/' :: rest)) =
      .ok [⟨.endOfInput, "",
        ⟨1, front.length + 1 + ('/' :: '/' :: rest).length⟩⟩] := by
  have passed :
      element (between front ('/' :: '/' :: rest))
          ⟨'/', ⟨1, front.length + 1⟩⟩ =
        .ok (.skipped (between (front ++ '/' :: '/' :: rest) [])) :=
    slash_between_comment front rest
  rw [tokens_eq, here?_between]
  dsimp only
  rw [passed]
  dsimp only
  rw [tokens_between_nil, List.length_append, Nat.add_right_comm]

/-- A longest span becomes a token in front of those of the rest. -/
theorem tokens_between_token
    {kind : TokenKind}
    {lexeme span behind : List Char}
    (isSpan : IsSpan kind lexeme span)
    (ends : kind.EndsBefore behind) :
    tokens (between front (span ++ behind)) =
      (tokens (between (front ++ span) behind)).map
        (⟨kind, String.ofList lexeme, ⟨1, front.length + 1⟩⟩ :: ·) := by
  obtain ⟨first, rest, rfl, _⟩ := isSpan.exists_cons
  rw [tokens_eq, List.cons_append, here?_between]
  dsimp only
  rw [← List.cons_append, element_of_isSpan front isSpan ends rfl]

/-- A string that is never closed stops the scan at its quote. -/
theorem tokens_between_of_neverClosed
    {rest : List Char}
    (neverClosed :
      ∀ body text behind : List Char,
        Decodes body text → rest ≠ body ++ '"' :: behind) :
    tokens (between front ('"' :: rest)) =
      .error (unterminatedString ⟨1, front.length + 1⟩) := by
  have failed :
      element (between front ('"' :: rest)) ⟨'"', ⟨1, front.length + 1⟩⟩ =
        .error (unterminatedString ⟨1, front.length + 1⟩) :=
    string_between_of_neverClosed front neverClosed
  rw [tokens_eq, here?_between]
  dsimp only
  rw [failed]

/-- The scanner finds the tokens of a split. -/
theorem tokens_between_of_splits
    {column : Nat}
    {text : List Char}
    {found : List Token}
    (splits : Splits column text found)
    (isColumn : column = front.length + 1) :
    tokens (between front text) = .ok found := by
  induction splits generalizing front with
  | nothing column =>
      rw [tokens_between_nil, isColumn]
  | @blank column first rest found isBlank later hypothesis =>
      have next := hypothesis (front ++ [first]) (by rw [isColumn]; simp)
      rw [tokens_between_blank front isBlank, next]
  | comment column rest =>
      rw [tokens_between_comment, isColumn]
  | @token column kind lexeme span behind found isSpan ends longest later
      hypothesis =>
      have next :=
        hypothesis (front ++ span)
          (by rw [isColumn, List.length_append, Nat.add_right_comm])
      rw [tokens_between_token front isSpan ends, next, isColumn]
      rfl

/-- The scanner finds the tokens of nothing but a split. -/
theorem splits_of_tokens_between
    {text : List Char}
    {found : List Token}
    (scanned : tokens (between front text) = .ok found) :
    Splits (front.length + 1) text found := by
  -- A span may take any number of characters, so the induction is on the length
  -- of what is left.
  induction length : text.length using Nat.strongRecOn
    generalizing front text found with
  | ind size hypothesis =>
      by_cases isEmpty : text = []
      · rw [isEmpty, tokens_between_nil] at scanned
        cases scanned
        rw [isEmpty]
        exact .nothing _
      · rw [← length] at hypothesis
        cases beginning_of_ne_nil isEmpty with
        | @blank first isBlank rest =>
            rw [tokens_between_blank front isBlank] at scanned
            have later :=
              hypothesis _ (Nat.lt_succ_self _) (front ++ [first]) scanned rfl
            rw [List.length_append] at later
            exact .blank isBlank later
        | comment rest =>
            rw [tokens_between_comment] at scanned
            cases scanned
            exact .comment _ rest
        | @token kind lexeme span behind isSpan ends =>
            rw [tokens_between_token front isSpan ends] at scanned
            cases next : tokens (between (front ++ span) behind) with
            | error failure =>
                rw [next] at scanned
                cases scanned
            | ok rest =>
                rw [next] at scanned
                cases scanned
                have shorter : behind.length < (span ++ behind).length := by
                  obtain ⟨first, more, rfl, _⟩ := isSpan.exists_cons
                  rw [List.length_append, List.length_cons]
                  omega
                have later := hypothesis _ shorter (front ++ span) next rfl
                rw [List.length_append, Nat.add_right_comm] at later
                exact .of_isSpan isSpan ends later
        | openString neverClosed =>
            rw [tokens_between_of_neverClosed front neverClosed] at scanned
            cases scanned

end Scan

/-- A text is scanned as it is split, and fails if it cannot be split. -/
theorem tokensOfText_eq_ok_iff_splits
    (text : String)
    (found : List Token) :
    tokensOfText text = .ok found ↔ Splits 1 text.toList found := by
  unfold tokensOfText
  rw [Cursor.ofText_eq_between]
  exact ⟨Scan.splits_of_tokens_between [],
    fun splits => Scan.tokens_between_of_splits [] splits rfl⟩

/--
The tokens of a text are those of its only split into blank characters, spans
that are each the longest at its place, and at most one comment at the end.
Each token stands in the column where its span begins, and nothing behind the
span could have gone on with it.
-/
theorem tokensOfText_partition
    {text : String}
    {found : List Token}
    (scanned : tokensOfText text = .ok found) :
    Splits 1 text.toList found ∧
      (∀ other, Splits 1 text.toList other → other = found) ∧
        (found.map fun token => token.position.column).Pairwise (· < ·) ∧
          ∃ body, found =
              body ++ [⟨.endOfInput, "", ⟨1, text.length + 1⟩⟩] ∧
            ∀ token ∈ body, token.kind ≠ .endOfInput ∧
              ∃ front span behind, text.toList = front ++ span ++ behind ∧
                token.position = ⟨1, front.length + 1⟩ ∧
                  IsSpan token.kind token.lexeme.toList span ∧
                    token.kind.EndsBefore behind := by
  have splits := (tokensOfText_eq_ok_iff_splits text found).mp scanned
  refine ⟨splits, ?_, splits.columns_increase, ?_⟩
  · intro other alsoSplits
    have alsoScanned :=
      (tokensOfText_eq_ok_iff_splits text other).mpr alsoSplits
    rw [scanned] at alsoScanned
    cases alsoScanned
    rfl
  · obtain ⟨body, parts, noEnd⟩ := splits.exists_body
    rw [String.length_toList, Nat.add_comm] at parts
    refine ⟨body, parts, ?_⟩
    intro token member
    refine ⟨noEnd token member, ?_⟩
    have isFound : token ∈ found := by
      rw [parts]
      exact List.mem_append_left _ member
    rcases splits.exists_span_of_mem isFound (noEnd token member) with
      ⟨front, span, behind, whole, placed, isSpan, ends⟩
    rw [Nat.add_comm] at placed
    exact ⟨front, span, behind, whole, placed, isSpan, ends⟩

/--
A second point begins a token of its own, two equals signs behind a less-than
sign are parted, and a quote behind a backslash belongs to the string.
-/
theorem tokensOfText_partition_points_and_signs :
    Splits 1 "1.2.3 <== \"a\\\"b\" / // x".toList
        [⟨.float, "1.2", ⟨1, 1⟩⟩, ⟨.unknown, ".", ⟨1, 4⟩⟩,
          ⟨.integer, "3", ⟨1, 5⟩⟩, ⟨.lessEqual, "<=", ⟨1, 7⟩⟩,
          ⟨.assign, "=", ⟨1, 9⟩⟩, ⟨.string, "a\"b", ⟨1, 11⟩⟩,
          ⟨.slash, "/", ⟨1, 18⟩⟩, ⟨.endOfInput, "", ⟨1, 24⟩⟩] := by
  have computed :
      (tokensOfText "1.2.3 <== \"a\\\"b\" / // x").toOption =
        some
          [⟨.float, "1.2", ⟨1, 1⟩⟩, ⟨.unknown, ".", ⟨1, 4⟩⟩,
            ⟨.integer, "3", ⟨1, 5⟩⟩, ⟨.lessEqual, "<=", ⟨1, 7⟩⟩,
            ⟨.assign, "=", ⟨1, 9⟩⟩, ⟨.string, "a\"b", ⟨1, 11⟩⟩,
            ⟨.slash, "/", ⟨1, 18⟩⟩, ⟨.endOfInput, "", ⟨1, 24⟩⟩] := by
    decide +kernel
  exact (tokensOfText_partition (Except.toOption_eq_some_iff.1 computed)).1

end OwlScript
