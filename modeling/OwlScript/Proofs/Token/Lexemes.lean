import OwlScript.Proofs.Token.JoinedFiles
import OwlScript.Proofs.Token.Respelling

namespace OwlScript

/-!
# The lexemes of a file

Every token of a file but the last takes a span of one line, and no other token
begins where it does.  A string may stand for a text with line breaks all the
same, because they can be written behind a backslash.  Any other lexeme is the
span itself, so it has none.
-/

namespace Scan

/-- Tokens whose columns increase have positions of their own. -/
theorem nodup_positions_of_columns_increase
    {found : List Token}
    (increase :
      (found.map fun token => token.position.column).Pairwise (· < ·)) :
    (found.map Token.position).Nodup := by
  rw [List.pairwise_map] at increase
  refine List.pairwise_map.2 (increase.imp ?_)
  intro first second before same
  rw [same] at before
  exact Nat.lt_irrefl _ before

namespace LineTokens

variable {number : Nat}
variable {lines : List Line}
variable {body : List Token}

/-- Every token of some lines has a span. -/
theorem exists_span_of_mem
    (tokens : LineTokens number lines body) :
    ∀ token ∈ body, ∃ span, IsSpan token.kind token.lexeme.toList span := by
  induction tokens with
  | nothing number =>
      exact nofun
  | @line number line rest found later scanned behind hypothesis =>
      refine List.forall_mem_append.2 ⟨?_, hypothesis⟩
      intro token member
      obtain ⟨onText, isKept, rfl⟩ := List.mem_map.1 member
      obtain ⟨inFound, notEnd⟩ := List.mem_filter.1 isKept
      have splits := (tokensOfText_eq_ok_iff_splits _ found).1 scanned
      obtain ⟨_, span, _, _, _, isSpan, _⟩ :=
        splits.exists_span_of_mem inFound (bne_iff_ne.1 notEnd)
      exact ⟨span, isSpan⟩

/-- No token of some lines stands above the first of them. -/
theorem number_le_line
    (tokens : LineTokens number lines body) :
    ∀ token ∈ body, number ≤ token.position.line := by
  induction tokens with
  | nothing number =>
      exact nofun
  | line scanned behind hypothesis =>
      rw [List.forall_mem_append]
      constructor
      · intro token member
        obtain ⟨found, -, rfl⟩ := List.mem_map.1 member
        exact Nat.le_refl _
      · intro token member
        exact Nat.le_of_succ_le (hypothesis token member)

/-- The tokens of lines have positions of their own. -/
theorem nodup_positions
    (tokens : LineTokens number lines body) :
    (body.map Token.position).Nodup := by
  induction tokens with
  | nothing number =>
      exact List.nodup_nil
  | @line number line rest found later scanned behind hypothesis =>
      have splits := (tokensOfText_eq_ok_iff_splits _ found).1 scanned
      have onLine :
          ((tokensOnLine number found).map Token.position).Nodup := by
        refine nodup_positions_of_columns_increase ?_
        rw [tokensOnLine, List.map_map]
        exact splits.columns_increase.sublist
          ((List.filter_sublist).map _)
      rw [List.map_append, List.nodup_append]
      refine ⟨onLine, hypothesis, ?_⟩
      intro first isFirst second isSecond same
      obtain ⟨token, inLine, rfl⟩ := List.mem_map.1 isFirst
      obtain ⟨_, -, rfl⟩ := List.mem_map.1 inLine
      obtain ⟨other, isLater, rfl⟩ := List.mem_map.1 isSecond
      have below := behind.number_le_line other isLater
      rw [← same] at below
      exact Nat.lt_irrefl _ below

end LineTokens

/-- The tokens have spans, and no two of them stand at the same position. -/
structure IsBody (body : List Token) : Prop where
  spans : ∀ token ∈ body, ∃ span, IsSpan token.kind token.lexeme.toList span
  positions : (body.map Token.position).Nodup

end Scan

variable {files : Files}
variable {path : String}
variable {tokens : List Token}

/-- A file that is scanned has tokens with spans, and an end without text. -/
theorem exists_body_of_tokensOfFile
    (scanned : tokensOfFile files path = .ok tokens) :
    ∃ body position,
      tokens = body ++ [⟨.endOfInput, "", position⟩] ∧ Scan.IsBody body := by
  cases readable : files path with
  | none =>
      simp only [tokensOfFile, Cursor.ofFile, LineStore.load, readable]
        at scanned
      cases scanned
  | some content =>
      rw [Scan.tokensOfFile_eq_tokensOfLines readable] at scanned
      obtain ⟨body, lineTokens, rfl⟩ := Scan.exists_lineTokens scanned
      exact ⟨body, _, rfl, lineTokens.exists_span_of_mem,
        lineTokens.nodup_positions⟩

/-- Of the lexemes in a file, only those of strings may have line breaks. -/
theorem unbroken_lexeme_of_tokensOfFile
    (scanned : tokensOfFile files path = .ok tokens)
    {token : Token}
    (member : token ∈ tokens)
    (notString : token.kind ≠ .string) :
    Unbroken token.lexeme.toList := by
  obtain ⟨body, position, rfl, isBody⟩ := exists_body_of_tokensOfFile scanned
  rcases List.mem_append.1 member with inBody | isEnd
  · obtain ⟨span, isSpan⟩ := isBody.spans token inBody
    rw [← isSpan.eq_lexeme notString]
    exact isSpan.unbroken notString
  · rw [List.mem_singleton.1 isEnd]
    exact ⟨nofun, nofun⟩

end OwlScript
