import OwlScript.Proofs.Parse.Levels

namespace OwlScript

/-!
# Every expression read is one of the grammar

What a storey of the tower reads is spelled by the tokens that were taken, and
the token left in front could not have been read by that storey.  A chain
keeps this up for the operand read so far, with all tokens that belong to it,
so the induction is on the rounds of the chain and then on the storeys.
-/

namespace Grammar

/-- The first token of an expression stands where the expression does. -/
theorem Spells.beginsAt
    {tokens : List Token}
    {expression : Expression}
    (spelled : Spells tokens expression) :
    BeginsAt tokens expression.position := by
  obtain ⟨first, rest, rfl, _, placed⟩ := spelled.exists_first
  exact congrArg some placed

/-- A storey is done if neither it nor one below it reads the next token. -/
theorem StopsAbove.succ
    {level : Nat}
    {tokens : List Token}
    (stops : StopsAbove level tokens)
    (absent :
      ∀ token ∈ tokens.head?,
        (OperatorLevel.above level).lookup token.kind = none) :
    StopsAbove (level + 1) tokens := by
  intro token member operator signed
  have below := stops token member operator signed
  have notHere := absent token member
  rw [OperatorLevel.lookup_above, signed, Option.filter_eq_none_iff] at notHere
  have differs := notHere operator rfl
  simp only [beq_iff_eq] at differs
  omega

end Grammar

namespace Parse

open Grammar

/-- The tokens spell the expression read, which may stand on the storey. -/
structure SpellsUpTo
    (level : Nat)
    (taken : List Token)
    (expression : Expression) :
    Prop where
  spelled : Spells taken expression
  precedence : expression.RespectsPrecedence
  leveled : expression.level ≤ level

/-- Two operands and an operator between them spell a binary expression. -/
theorem SpellsUpTo.binary
    {level : Nat}
    {sign : Token}
    {operator : BinaryOperator}
    {leftTokens rightTokens : List Token}
    {left right : Expression}
    (leftSpelled : SpellsUpTo (level + 1) leftTokens left)
    (signed : sign.kind.binaryOperator? = some operator)
    (leveled : operator.level = level + 1)
    (rightSpelled : SpellsUpTo level rightTokens right) :
    SpellsUpTo (level + 1) (leftTokens ++ sign :: rightTokens)
      (.binary operator left right) where
  spelled :=
    .binary leftSpelled.spelled leftSpelled.spelled.beginsAt signed
      rightSpelled.spelled
  precedence := by
    have leftLevel := leftSpelled.leveled
    have rightLevel := rightSpelled.leveled
    exact ⟨by omega, by omega, leftSpelled.precedence,
      rightSpelled.precedence⟩
  leveled := Nat.le_of_eq leveled

/-- The parser reads only what the tokens spell, and all that it can of it. -/
def SoundUpTo (level : Nat) (parser : Parse SizedExpression) : Prop :=
  ∀ tokens,
    Ensures parser tokens fun taken read rest =>
      SpellsUpTo level taken read.expression ∧ StopsAbove level rest

section Chains

variable {level : Nat}
variable {operand : Parse SizedExpression}

/-- Whatever is joined to the operand read so far is spelled behind it. -/
theorem ensures_chainFrom
    (sound : SoundUpTo level operand)
    (rounds : List Token)
    {tokens before : List Token}
    {left : SizedExpression}
    (leftSpelled : SpellsUpTo (level + 1) before left.expression)
    (stops : StopsAbove level tokens)
    (enough : tokens.length ≤ rounds.length) :
    Ensures (chainFrom (OperatorLevel.above level) operand rounds left) tokens
      fun taken read rest =>
        SpellsUpTo (level + 1) (before ++ taken) read.expression ∧
          StopsAbove (level + 1) rest := by
  induction rounds generalizing tokens before left with
  | nil =>
      have ended : tokens = [] := by
        simpa using enough
      subst ended
      exact .pure ⟨by simpa using leftSpelled, nofun⟩
  | cons round rounds hypothesis =>
      -- The chain ends in front of everything but an operator of its level.
      by_cases absent :
        ∀ token ∈ tokens.head?,
          (OperatorLevel.above level).lookup token.kind = none
      · refine .step [] (reads_acceptOperator_none absent) ?_
        exact .pure ⟨by simpa using leftSpelled, stops.succ absent⟩
      · cases tokens with
        | nil =>
            exact (absent nofun).elim
        | cons sign later =>
            have found :
                (OperatorLevel.above level).lookup sign.kind ≠ none := by
              simpa using absent
            obtain ⟨operator, lookedUp⟩ := Option.ne_none_iff_exists'.mp found
            rw [OperatorLevel.lookup_above, Option.filter_eq_some_iff,
              beq_iff_eq] at lookedUp
            obtain ⟨signed, leveled⟩ := lookedUp
            refine .step [sign] (reads_acceptOperator signed leveled later) ?_
            apply (sound later).bind
            rintro rightTokens right middle rfl ⟨rightSpelled, rightStops⟩
            refine .step [] (reads_sized _ _ middle) ?_
            have joined :=
              leftSpelled.binary signed leveled rightSpelled
            have shorter : middle.length ≤ rounds.length := by
              simp only [List.length_cons, List.length_append] at enough
              omega
            refine (hypothesis joined rightStops shorter).weaken ?_
            intro taken read rest _ reached
            simpa using reached

/-- A chain over sound operands is sound one level higher. -/
theorem SoundUpTo.chain (sound : SoundUpTo level operand) :
    SoundUpTo (level + 1)
      (chain (OperatorLevel.above level) operand) := by
  intro tokens
  apply (sound tokens).bind
  rintro taken first rest _ ⟨spelled, stops⟩
  refine .step [] (reads_remaining rest) ?_
  have wider : SpellsUpTo (level + 1) taken first.expression :=
    { spelled with leveled := Nat.le_succ_of_le spelled.leveled }
  exact ensures_chainFrom sound rest wider stops (Nat.le_refl _)

/-- The tower over sound operands is sound at every level. -/
theorem SoundUpTo.upTo
    (sound : SoundUpTo 0 operand)
    (level : Nat) :
    SoundUpTo level (upTo operand level) := by
  induction level with
  | zero =>
      exact sound
  | succ level hypothesis =>
      exact hypothesis.chain

end Chains

/-- A leaf is read from the token that spells it. -/
theorem ensures_leaf
    {token : Token}
    {expression : Expression}
    (tokens : List Token)
    (spelled : SpellsUpTo 0 [token] expression) :
    Ensures (leaf expression) (token :: tokens) fun taken read rest =>
      SpellsUpTo 0 taken read.expression ∧ StopsAbove 0 rest :=
  .of_reads [token] (reads_leaf expression token tokens)
    ⟨spelled, stopsAbove_zero tokens⟩

/-- A token that stands for a literal is read as that. -/
theorem ensures_leaf_literal
    {token : Token}
    {value : Value}
    (tokens : List Token)
    (stands : token.literal? = some value) :
    Ensures (leaf (.literal token.position value)) (token :: tokens)
      fun taken read rest =>
        SpellsUpTo 0 taken read.expression ∧ StopsAbove 0 rest :=
  ensures_leaf tokens ⟨.literal stands, trivial, Nat.le_refl 0⟩

/-- What is read between parentheses, they and it spell as a group. -/
theorem ensures_primary_group
    {opening : Token}
    {inside : Parse SizedExpression}
    (tokens : List Token)
    (opens : opening.kind = .leftParenthesis)
    (sound : SoundUpTo 6 inside) :
    Ensures
      (do
        advance
        let inner ← inside
        let _ ← expect .rightParenthesis .expectedGroupEnd
        sized (.group opening.position inner.expression) (inner.height + 1))
      (opening :: tokens) fun taken read rest =>
        SpellsUpTo 0 taken read.expression ∧ StopsAbove 0 rest := by
  refine .step [opening] (reads_advance opening tokens) ?_
  apply (sound tokens).bind
  rintro taken inner rest _ ⟨spelled, _⟩
  apply (ensures_expect .rightParenthesis .expectedGroupEnd rest).bind
  rintro _ closing later _ ⟨rfl, closes⟩
  refine .of_reads [] (reads_sized _ _ later) ⟨?_, stopsAbove_zero later⟩
  have group :
      SpellsUpTo 0 (opening :: (taken ++ [closing]))
        (.group opening.position inner.expression) :=
    ⟨.group opens spelled.spelled closes, spelled.precedence, Nat.le_refl 0⟩
  simpa using group

/-- A primary expression is read only where the tokens spell one. -/
theorem ensures_primary
    {inside : Parse SizedExpression}
    (sound : SoundUpTo 6 inside)
    (tokens : List Token) :
    Ensures (primary inside) tokens fun taken read rest =>
      SpellsUpTo 0 taken read.expression ∧ StopsAbove 0 rest := by
  refine .step [] (reads_peek? tokens) ?_
  cases tokens with
  | nil =>
      intro state value final here run
      cases run
  | cons token later =>
      refine .step [] (reads_record _ _) ?_
      simp only [List.nil_append]
      split
      · next integer =>
          split
          · next number read =>
              exact ensures_leaf_literal later
                (by simp [Token.literal?, integer, read])
          · exact .throw _
      · next float =>
          split
          · next number read =>
              exact ensures_leaf_literal later
                (by simp [Token.literal?, float, read])
          · exact .throw _
      · next string =>
          exact ensures_leaf_literal later (by simp [Token.literal?, string])
      · next trueWord =>
          exact ensures_leaf_literal later
            (by simp [Token.literal?, trueWord])
      · next falseWord =>
          exact ensures_leaf_literal later
            (by simp [Token.literal?, falseWord])
      · next nilWord =>
          exact ensures_leaf_literal later (by simp [Token.literal?, nilWord])
      · next identifier =>
          exact ensures_leaf later
            ⟨.reference identifier, trivial, Nat.le_refl 0⟩
      · next opens =>
          exact ensures_primary_group later opens sound
      · exact .throw _
      · exact .throw _

/-- An operand is sound if what it nests is. -/
theorem SoundUpTo.unary
    {operand inside : Parse SizedExpression}
    (operandSound : SoundUpTo 0 operand)
    (insideSound : SoundUpTo 6 inside) :
    SoundUpTo 0 (unary operand inside) := by
  intro tokens
  refine .step [] (reads_peek? tokens) ?_
  cases tokens with
  | nil =>
      exact ensures_primary insideSound []
  | cons sign later =>
      simp only [List.head?_cons, List.nil_append]
      split
      · exact ensures_primary insideSound (sign :: later)
      · next operator signed =>
          rw [unaryOperator?_eq_leadingOperator?] at signed
          refine .step [sign] (reads_advance sign later) ?_
          apply (operandSound later).bind
          rintro taken inner rest _ ⟨spelled, _⟩
          refine .of_reads [] (reads_sized _ _ rest) ⟨?_, stopsAbove_zero rest⟩
          have negated :
              SpellsUpTo 0 (sign :: taken)
                (.unary sign.position operator inner.expression) :=
            ⟨.unary signed spelled.spelled,
              ⟨Nat.le_zero.mp spelled.leveled, spelled.precedence⟩,
              Nat.le_refl 0⟩
          simpa using negated

/-- Over sound operands all levels together are sound. -/
theorem SoundUpTo.overAllLevels
    {operand : Parse SizedExpression}
    (sound : SoundUpTo 0 operand) :
    SoundUpTo 6 (overAllLevels operand) := by
  rw [overAllLevels_eq_upTo]
  exact sound.upTo 6

end Parse

end OwlScript
