import OwlScript.Proofs.Token.Spans

namespace OwlScript

/-!
# Longest spans

A span that nothing behind it goes on with is the longest one at its place.
The first character decides between words, numbers, strings and signs, so only
spans of the same family have to be compared.
-/

/-- The families of tokens that are told apart by the first character. -/
inductive Family where
  | word
  | number
  | text
  | sign
  deriving Repr, DecidableEq

/-- The family of the tokens that a character begins. -/
def familyOf (first : Char) : Family :=
  if Scan.beginsWord first then .word
  else if first.isDigit then .number
  else if first = '"' then .text
  else .sign

/-- What begins a word is of the family of words. -/
theorem familyOf_of_beginsWord
    {first : Char}
    (begins : Scan.beginsWord first = true) :
    familyOf first = .word :=
  if_pos begins

/-- A digit is of the family of numbers. -/
theorem familyOf_of_isDigit
    {first : Char}
    (isDigit : first.isDigit = true) :
    familyOf first = .number := by
  rw [familyOf, (Scan.classes_of_isDigit isDigit).2.1, isDigit]
  rfl

/-- What begins nothing else is of the family of signs. -/
theorem familyOf_of_sign
    {first : Char}
    (beginsNoWord : Scan.beginsWord first = false)
    (notDigit : first.isDigit = false)
    (notQuote : first ≠ '"') :
    familyOf first = .sign := by
  rw [familyOf, beginsNoWord, notDigit, if_neg notQuote]
  rfl

/-- The characters of signs are of the family of signs. -/
theorem familyOf_of_isSign
    {first : Char}
    (isSign : IsSign first) :
    familyOf first = .sign := by
  obtain ⟨_, beginsNoWord, notDigit, notQuote⟩ := classes_of_isSign isSign
  exact familyOf_of_sign beginsNoWord notDigit notQuote

/-- What the spans of a family look like that begin with a character. -/
def Family.Shape
    (first : Char)
    (kind : TokenKind)
    (lexeme span : List Char) :
    Family → Prop
  | .word =>
      (∀ character ∈ span, Scan.continuesWord character = true) ∧
        ∀ behind, kind.EndsBefore behind →
          StopsAt Scan.continuesWord behind
  | .number =>
      (kind = .integer ∧ ∀ digit ∈ span, digit.isDigit = true) ∨
        kind = .float ∧
          ∃ whole fraction, span = whole ++ '.' :: fraction ∧
            fraction ≠ [] ∧
            (∀ digit ∈ whole, digit.isDigit = true) ∧
            ∀ digit ∈ fraction, digit.isDigit = true
  | .text =>
      kind = .string ∧
        ∃ body, span = '"' :: body ++ ['"'] ∧ Decodes body lexeme
  | .sign =>
      (span = [first] ∧
          ∀ bare paired, (first, bare, paired) ∈ equalSigns →
            ∀ behind, kind.EndsBefore behind →
              StopsAt (· == '=') behind) ∨
        span = [first, '='] ∧
          ∃ bare paired, (first, bare, paired) ∈ equalSigns

/-- A span looks as the family of its first character does. -/
theorem IsSpan.shape
    {kind : TokenKind}
    {lexeme span : List Char}
    {first : Char}
    (isSpan : IsSpan kind lexeme span)
    (isFirst : span.head? = some first) :
    (familyOf first).Shape first kind lexeme span := by
  cases isSpan with
  | identifier begins continues noKeyword =>
      cases isFirst
      rw [familyOf_of_beginsWord begins]
      refine ⟨?_, fun _ ends => ends⟩
      rw [List.forall_mem_cons]
      exact ⟨Scan.continuesWord_of_beginsWord begins, continues⟩
  | keyword word =>
      obtain ⟨start, rest, spelled, begins, continues⟩ := word.exists_spelling
      rw [spelled] at isFirst ⊢
      cases isFirst
      rw [familyOf_of_beginsWord begins]
      refine ⟨?_, fun _ ends => ends⟩
      rw [List.forall_mem_cons]
      exact ⟨Scan.continuesWord_of_beginsWord begins, continues⟩
  | integer notEmpty areDigits =>
      have isDigit := areDigits first (List.mem_of_head? isFirst)
      rw [familyOf_of_isDigit isDigit]
      exact Or.inl ⟨rfl, areDigits⟩
  | @float whole fraction wholeNotEmpty fractionNotEmpty wholeDigits
      fractionDigits =>
      have isFirstOfWhole : whole.head? = some first := by
        obtain ⟨start, rest, rfl⟩ := List.exists_cons_of_ne_nil wholeNotEmpty
        exact isFirst
      have isDigit := wholeDigits first (List.mem_of_head? isFirstOfWhole)
      rw [familyOf_of_isDigit isDigit]
      exact Or.inr ⟨rfl, whole, fraction, rfl, fractionNotEmpty, wholeDigits,
        fractionDigits⟩
  | string decodes =>
      cases isFirst
      exact ⟨rfl, _, rfl, decodes⟩
  | slash =>
      cases isFirst
      refine Or.inl ⟨rfl, ?_⟩
      intro bare paired member
      simp [equalSigns] at member
  | plainSign member =>
      cases isFirst
      rw [familyOf_of_isSign (isSign_of_mem_plainSigns member)]
      refine Or.inl ⟨rfl, ?_⟩
      intro bare paired alsoMember
      have apart :
          ∀ plain ∈ plainSigns, ∀ equal ∈ equalSigns, plain.1 ≠ equal.1 := by
        decide
      exact absurd rfl (apart _ member _ alsoMember)
  | bareSign member =>
      cases isFirst
      rw [familyOf_of_isSign (isSign_of_mem_equalSigns member)]
      exact Or.inl ⟨rfl, fun _ _ _ behind =>
        (endsBefore_of_mem_equalSigns member behind).1.mp⟩
  | pairedSign member =>
      cases isFirst
      rw [familyOf_of_isSign (isSign_of_mem_equalSigns member)]
      exact Or.inr ⟨rfl, _, _, member⟩
  | unknown notBlank beginsNoWord notDigit notQuote notSign =>
      cases isFirst
      rw [familyOf_of_sign beginsNoWord notDigit notQuote]
      refine Or.inl ⟨rfl, ?_⟩
      intro bare paired member
      exact absurd (isSign_of_mem_equalSigns member) notSign

/-- A quote that closes a string is the first one that can. -/
theorem Decodes.eq_of_append_quote
    {body text behind otherBody otherText otherBehind : List Char}
    (decodes : Decodes body text)
    (other : Decodes otherBody otherText)
    (same : otherBody ++ '"' :: otherBehind = body ++ '"' :: behind) :
    otherBody = body := by
  induction decodes generalizing otherBody otherText with
  | nothing =>
      cases other with
      | nothing =>
          rfl
      | plain notQuote notBackslash rest =>
          exact absurd (List.cons.inj same).1 notQuote
      | escaped standsFor rest =>
          cases same
  | @plain character body text notQuote notBackslash rest hypothesis =>
      cases other with
      | nothing =>
          exact absurd (List.cons.inj same).1.symm notQuote
      | plain otherNotQuote otherNotBackslash otherRest =>
          obtain ⟨rfl, later⟩ := List.cons.inj same
          rw [hypothesis otherRest later]
      | escaped standsFor otherRest =>
          exact absurd (List.cons.inj same).1.symm notBackslash
  | escaped standsFor rest hypothesis =>
      cases other with
      | nothing =>
          cases same
      | plain otherNotQuote otherNotBackslash otherRest =>
          exact absurd (List.cons.inj same).1 otherNotBackslash
      | escaped otherStandsFor otherRest =>
          obtain ⟨_, behindBackslash⟩ := List.cons.inj same
          obtain ⟨rfl, later⟩ := List.cons.inj behindBackslash
          rw [hypothesis otherRest later]

/-- What satisfies a condition throughout does not reach over what fails it. -/
theorem length_le_of_stopsAt
    {condition : Char → Bool}
    {front behind other otherBehind : List Char}
    (holds : ∀ character ∈ other, condition character = true)
    (stops : StopsAt condition behind)
    (same : other ++ otherBehind = front ++ behind) :
    other.length ≤ front.length := by
  induction front generalizing other with
  | nil =>
      cases other with
      | nil =>
          exact Nat.le_refl 0
      | cons first rest =>
          have isFirst : behind.head? = some first :=
            congrArg List.head? same.symm
          have satisfied := holds first (List.mem_cons_self ..)
          rw [stops first isFirst] at satisfied
          cases satisfied
  | cons start front hypothesis =>
      cases other with
      | nil =>
          exact Nat.zero_le _
      | cons first rest =>
          rw [List.forall_mem_cons] at holds
          exact Nat.succ_le_succ
            (hypothesis holds.2 (List.cons.inj same).2)

/-- Numbers are longest if they end before what is behind them. -/
theorem number_length_le
    {first : Char}
    {kind otherKind : TokenKind}
    {lexeme span behind otherLexeme other otherBehind : List Char}
    (shape : Family.Shape first kind lexeme span .number)
    (ends : kind.EndsBefore behind)
    (otherShape : Family.Shape first otherKind otherLexeme other .number)
    (same : other ++ otherBehind = span ++ behind) :
    other.length ≤ span.length := by
  rcases shape with
    ⟨rfl, digits⟩ |
      ⟨rfl, whole, fraction, rfl, notEmpty, wholeDigits, fractionDigits⟩
  · rcases otherShape with
      ⟨_, otherDigits⟩ |
        ⟨_, otherWhole, otherFraction, rfl, otherNotEmpty, otherWholeDigits,
          otherFractionDigits⟩
    · exact length_le_of_stopsAt otherDigits ends.1 same
    · -- The digits in front of the point are the same, so the integer would
      -- have had to end before a point and a digit.
      rw [List.append_assoc] at same
      have otherStops := stopsAt_point (otherFraction ++ otherBehind)
      have pointed :=
        (takeWhile_dropWhile_of_stopsAt otherWholeDigits otherStops).2
      rw [List.cons_append] at same
      rw [same, (takeWhile_dropWhile_of_stopsAt digits ends.1).2] at pointed
      obtain ⟨digit, more, rfl⟩ := List.exists_cons_of_ne_nil otherNotEmpty
      have notDigit := ends.2 digit _ pointed
      rw [otherFractionDigits digit (List.mem_cons_self ..)] at notDigit
      cases notDigit
  · rw [List.append_assoc, List.cons_append] at same
    have stops := stopsAt_point (fraction ++ behind)
    rcases otherShape with
      ⟨_, otherDigits⟩ |
        ⟨_, otherWhole, otherFraction, rfl, otherNotEmpty, otherWholeDigits,
          otherFractionDigits⟩
    · have shorter := length_le_of_stopsAt otherDigits stops same
      rw [List.length_append]
      exact Nat.le_trans shorter (Nat.le_add_right _ _)
    · rw [List.append_assoc, List.cons_append] at same
      have otherStops := stopsAt_point (otherFraction ++ otherBehind)
      have wholeSame :=
        (takeWhile_dropWhile_of_stopsAt otherWholeDigits otherStops)
      rw [same, (takeWhile_dropWhile_of_stopsAt wholeDigits stops).1,
        (takeWhile_dropWhile_of_stopsAt wholeDigits stops).2] at wholeSame
      have fractionSame := (List.cons.inj wholeSame.2).2
      have shorter :=
        length_le_of_stopsAt otherFractionDigits ends fractionSame.symm
      rw [wholeSame.1]
      simp only [List.length_append, List.length_cons]
      omega

/-- A span that ends before what is behind it is the longest at its place. -/
theorem IsSpan.length_le
    {kind otherKind : TokenKind}
    {lexeme span behind otherLexeme other otherBehind : List Char}
    (isSpan : IsSpan kind lexeme span)
    (ends : kind.EndsBefore behind)
    (isOther : IsSpan otherKind otherLexeme other)
    (same : other ++ otherBehind = span ++ behind) :
    other.length ≤ span.length := by
  obtain ⟨first, rest, rfl, _⟩ := isSpan.exists_cons
  obtain ⟨otherFirst, otherRest, rfl, _⟩ := isOther.exists_cons
  obtain ⟨rfl, _⟩ := List.cons.inj same
  have shape := isSpan.shape rfl
  have otherShape := isOther.shape rfl
  -- Both spans begin with the same character, so they are of one family.
  cases family : familyOf otherFirst with
  | word =>
      rw [family] at shape otherShape
      exact length_le_of_stopsAt otherShape.1 (shape.2 behind ends) same
  | number =>
      rw [family] at shape otherShape
      exact number_length_le shape ends otherShape same
  | text =>
      rw [family] at shape otherShape
      obtain ⟨_, body, spanned, decodes⟩ := shape
      obtain ⟨_, otherBody, otherSpanned, otherDecodes⟩ := otherShape
      rw [spanned, otherSpanned] at same
      simp only [List.cons_append, List.append_assoc, List.nil_append]
        at same
      have sameBody :=
        decodes.eq_of_append_quote otherDecodes (List.cons.inj same).2
      rw [← sameBody] at spanned
      exact Nat.le_of_eq
        (congrArg List.length (otherSpanned.trans spanned.symm))
  | sign =>
      rw [family] at shape otherShape
      rcases otherShape with
        ⟨single, _⟩ | ⟨pair, bare, paired, member⟩
      · rw [single]
        exact Nat.succ_le_succ (Nat.zero_le _)
      · rcases shape with ⟨single, stops⟩ | ⟨paired, _⟩
        · rw [single, pair] at same
          have isFirst : behind.head? = some '=' :=
            congrArg List.head? (List.cons.inj same).2.symm
          have failed := stops bare paired member behind ends '=' isFirst
          cases failed
        · exact Nat.le_of_eq (congrArg List.length (pair.trans paired.symm))

end OwlScript
