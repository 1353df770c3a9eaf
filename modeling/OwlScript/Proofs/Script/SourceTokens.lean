import Mathlib.Data.List.Nodup
import OwlScript.Proofs.Script.FaultPositions
import OwlScript.Proofs.Token.Lexemes

namespace OwlScript

/-!
# The tokens of a source

Whether they are those of a text or of a file, the tokens of a source end with
the end token, all others have spans, and no two of those stand at the same
position.
-/

namespace Source

variable {source : Source}
variable {tokens : List Token}

/-- The tokens of a source are those of its body and one end token. -/
theorem exists_isBody
    (scanned : source.tokens = .ok tokens) :
    ∃ body position,
      tokens = body ++ [⟨.endOfInput, "", position⟩] ∧
        Scan.IsBody body := by
  cases source with
  | text characters =>
      have splits := (tokensOfText_eq_ok_iff_splits _ tokens).1 scanned
      obtain ⟨body, rfl, notEnd⟩ := splits.exists_body
      refine ⟨body, _, rfl, ?_, ?_⟩
      · intro token member
        obtain ⟨_, span, _, _, _, isSpan, _⟩ :=
          splits.exists_span_of_mem (List.mem_append_left _ member)
            (notEnd token member)
        exact ⟨span, isSpan⟩
      · refine Scan.nodup_positions_of_columns_increase ?_
        exact splits.columns_increase.sublist
          ((List.sublist_append_left body _).map _)
  | file files path =>
      exact exists_body_of_tokensOfFile scanned

variable {token : Token}

/-- A token other than the end token is one of the body. -/
theorem mem_of_mem_append_end
    {body : List Token}
    {position : Position}
    (member : token ∈ body ++ [⟨.endOfInput, "", position⟩])
    (notEnd : token.kind ≠ .endOfInput) :
    token ∈ body := by
  refine (List.mem_append.1 member).resolve_right fun isEnd => notEnd ?_
  rw [List.mem_singleton.1 isEnd]

/-- Every token but the end has a span. -/
theorem exists_span_of_mem
    (scanned : source.tokens = .ok tokens)
    (member : token ∈ tokens)
    (notEnd : token.kind ≠ .endOfInput) :
    ∃ span, IsSpan token.kind token.lexeme.toList span := by
  obtain ⟨body, position, rfl, isBody⟩ := exists_isBody scanned
  exact isBody.spans token (mem_of_mem_append_end member notEnd)

/-- Every token but the end is in front of the first end token. -/
theorem mem_takeWhile_of_mem
    (scanned : source.tokens = .ok tokens)
    (member : token ∈ tokens)
    (notEnd : token.kind ≠ .endOfInput) :
    token ∈ tokens.takeWhile fun token => token.kind != .endOfInput := by
  obtain ⟨body, position, rfl, isBody⟩ := exists_isBody scanned
  have noEnd : ∀ token ∈ body, (token.kind != .endOfInput) = true := by
    intro token inBody
    obtain ⟨span, isSpan⟩ := isBody.spans token inBody
    exact bne_iff_ne.2 isSpan.kind_ne_endOfInput
  rw [List.takeWhile_append_of_pos noEnd]
  exact List.mem_append_left _ (mem_of_mem_append_end member notEnd)

/-- No two tokens but the end stand at the same position. -/
theorem eq_of_position_eq
    (scanned : source.tokens = .ok tokens)
    {other : Token}
    (member : token ∈ tokens)
    (otherMember : other ∈ tokens)
    (notEnd : token.kind ≠ .endOfInput)
    (otherNotEnd : other.kind ≠ .endOfInput)
    (same : token.position = other.position) :
    token = other := by
  obtain ⟨body, position, rfl, isBody⟩ := exists_isBody scanned
  exact List.inj_on_of_nodup_map isBody.positions
    (mem_of_mem_append_end member notEnd)
    (mem_of_mem_append_end otherMember otherNotEnd) same

end Source

end OwlScript
