import OwlScript.Proofs.Parse.Levels

namespace OwlScript

/-!
# Every expression of the grammar is read

Tokens that spell an expression are read as that expression, unless it does
not fit within the limits.  The induction is on the spelling.  An operand on
the left of an operator is only part of a chain, so what is proved of it is
that the chain goes on with it, whatever comes of the rest.
-/

namespace Expression

/-- Whether the nesting levels left and the greatest height are enough. -/
def Fits (levels : Nat) (expression : Expression) : Prop :=
  expression.nesting ≤ levels ∧ expression.height ≤ nestingLimit

/-- Whether they are enough for the expression one level further in. -/
def FitsInside (levels : Nat) (expression : Expression) : Prop :=
  expression.nesting + 1 ≤ levels ∧ expression.height ≤ nestingLimit

/-- A binary expression fits if its operands do and its height is allowed. -/
theorem fits_binary_iff
    (levels : Nat)
    (operator : BinaryOperator)
    (left right : Expression) :
    (Expression.binary operator left right).Fits levels ↔
      left.Fits levels ∧ right.Fits levels ∧
        max left.height right.height + 1 ≤ nestingLimit := by
  simp only [Fits, nesting, height]
  omega

end Expression

/-- An expression with the height that it has. -/
def SizedExpression.of (expression : Expression) : SizedExpression :=
  ⟨expression, expression.height⟩

namespace Parse

open Grammar

/-- The parser of operands where the given number of levels is left. -/
def operandWithin (levels : Nat) : Parse SizedExpression :=
  unary (NestedParsers.within levels).operand
    (NestedParsers.within levels).expression

/-- The tokens are read up to a level, whatever comes behind them. -/
def ReadsUpTo
    (levels level : Nat)
    (tokens : List Token)
    (expression : Expression) :
    Prop :=
  ∀ later, StopsAbove level later →
    Reads (upTo (operandWithin levels) level) (tokens ++ later)
      (expression.Fits levels) (.of expression) later

/--
A chain that begins with the tokens goes on with their expression as what is
read so far, as long as that is enough for what comes behind them.
-/
def GoesOnWith
    (levels level : Nat)
    (tokens : List Token)
    (expression : Expression) :
    Prop :=
  ∀ later allowed result rest, StopsAbove level later →
    (∀ rounds : List Token, later.length ≤ rounds.length →
      Reads
        (chainFrom (OperatorLevel.above level)
          (upTo (operandWithin levels) level) rounds (.of expression))
        later allowed result rest) →
    Reads
      (chain (OperatorLevel.above level) (upTo (operandWithin levels) level))
      (tokens ++ later) (expression.Fits levels ∧ allowed) result rest

section Chains

variable {levels level : Nat}
variable {tokens : List Token}
variable {expression : Expression}

/-- What is read up to a level can be gone on with at that level. -/
theorem ReadsUpTo.goesOnWith
    (reads : ReadsUpTo levels level tokens expression) :
    GoesOnWith levels level tokens expression := by
  intro later allowed result rest stops goesOn
  exact (reads later stops).bind
    ((reads_remaining later).step (goesOn later (Nat.le_refl _)))

/-- What can be gone on with at a level is read up to the next. -/
theorem GoesOnWith.readsUpTo
    (goesOn : GoesOnWith levels level tokens expression) :
    ReadsUpTo levels (level + 1) tokens expression := by
  intro later stops
  refine Reads.congr ?_ (iff_of_eq (and_true (expression.Fits levels)))
  apply goesOn later True (.of expression) later
  · exact stops.mono (Nat.le_succ level)
  · intro rounds enough
    exact reads_chainFrom_stop _ rounds _ stops

/-- What is read up to a level is read up to every higher one. -/
theorem ReadsUpTo.mono
    {higher : Nat}
    (reads : ReadsUpTo levels level tokens expression)
    (above : level ≤ higher) :
    ReadsUpTo levels higher tokens expression := by
  induction above with
  | refl =>
      exact reads
  | step above hypothesis =>
      exact hypothesis.goesOnWith.readsUpTo

/-- A chain goes on with an operator and its right operand. -/
theorem GoesOnWith.binary
    {sign : Token}
    {operator : BinaryOperator}
    {leftTokens rightTokens : List Token}
    {left right : Expression}
    (leftGoesOn : GoesOnWith levels level leftTokens left)
    (signed : sign.kind.binaryOperator? = some operator)
    (leveled : operator.level = level + 1)
    (rightReads : ReadsUpTo levels level rightTokens right) :
    GoesOnWith levels level (leftTokens ++ sign :: rightTokens)
      (.binary operator left right) := by
  intro later allowed result rest stops goesOn
  have stopsAtSign : StopsAbove level (sign :: (rightTokens ++ later)) := by
    intro token member found signedFound
    cases member
    rw [signed] at signedFound
    cases signedFound
    omega
  have goesOnAtSign :
      ∀ rounds : List Token,
        (sign :: (rightTokens ++ later)).length ≤ rounds.length →
        Reads
          (chainFrom (OperatorLevel.above level)
            (upTo (operandWithin levels) level) rounds (.of left))
          (sign :: (rightTokens ++ later))
          (right.Fits levels ∧
            (max left.height right.height + 1 ≤ nestingLimit ∧ allowed))
          result rest := by
    intro rounds enough
    cases rounds with
    | nil =>
        simp at enough
    | cons round rounds =>
        apply reads_chainFrom_operator signed leveled
          (rightReads later stops)
        apply goesOn rounds
        simp only [List.length_cons, List.length_append] at enough
        omega
  rw [List.append_assoc, List.cons_append]
  refine (leftGoesOn _ _ result rest stopsAtSign goesOnAtSign).congr ?_
  simp only [Expression.fits_binary_iff, and_assoc]

end Chains

/--
The tokens are read as the expression on every storey where the expression may
stand, and every storey where it may stand first goes on with it.
-/
structure ReadsExpression
    (levels : Nat)
    (tokens : List Token)
    (expression : Expression) :
    Prop where
  upTo :
    ∀ level, expression.level ≤ level →
      ReadsUpTo levels level tokens expression
  first :
    ∀ level, expression.level ≤ level + 1 →
      GoesOnWith levels level tokens expression

namespace ReadsExpression

variable {levels : Nat}
variable {tokens : List Token}
variable {expression : Expression}

/-- What is read as an operand is read on every storey. -/
theorem of_operand
    (reads : ReadsUpTo levels 0 tokens expression) :
    ReadsExpression levels tokens expression where
  upTo level _ :=
    reads.mono (Nat.zero_le level)
  first level _ :=
    (reads.mono (Nat.zero_le level)).goesOnWith

/-- What is read as a chain is read on the storey of the chain and above. -/
theorem of_chain
    {level : Nat}
    (goesOn : GoesOnWith levels level tokens expression)
    (leveled : expression.level = level + 1) :
    ReadsExpression levels tokens expression where
  upTo higher above :=
    goesOn.readsUpTo.mono (leveled ▸ above)
  first higher above := by
    rcases Nat.eq_or_lt_of_le (leveled ▸ above) with same | beyond
    · cases same
      exact goesOn
    · exact (goesOn.readsUpTo.mono (Nat.le_of_lt_succ beyond)).goesOnWith

end ReadsExpression

/-- A literal is read from its token. -/
theorem reads_primary_literal
    {token : Token}
    {value : Value}
    (stands : token.literal? = some value)
    (inside : Parse SizedExpression)
    (tokens : List Token) :
    Reads (primary inside) (token :: tokens) True
      (.of (.literal token.position value)) tokens := by
  refine (reads_peek? (token :: tokens)).step ?_
  refine (reads_record _ (token :: tokens)).step ?_
  unfold Token.literal? at stands
  split at stands
  · next integer =>
      obtain ⟨number, read, rfl⟩ := Option.map_eq_some_iff.mp stands
      simp only [integer, read]
      exact reads_leaf _ token tokens
  · next float =>
      obtain ⟨number, read, rfl⟩ := Option.map_eq_some_iff.mp stands
      simp only [float, read]
      exact reads_leaf _ token tokens
  · next string =>
      cases stands
      simp only [string]
      exact reads_leaf _ token tokens
  · next trueWord =>
      cases stands
      simp only [trueWord]
      exact reads_leaf _ token tokens
  · next falseWord =>
      cases stands
      simp only [falseWord]
      exact reads_leaf _ token tokens
  · next nilWord =>
      cases stands
      simp only [nilWord]
      exact reads_leaf _ token tokens
  · cases stands

/-- A reference is read from its name. -/
theorem reads_primary_reference
    {token : Token}
    (named : token.kind = .identifier)
    (inside : Parse SizedExpression)
    (tokens : List Token) :
    Reads (primary inside) (token :: tokens) True
      (.of (.reference token.position token.lexeme)) tokens := by
  refine (reads_peek? (token :: tokens)).step ?_
  refine (reads_record _ (token :: tokens)).step ?_
  simp only [named]
  exact reads_leaf _ token tokens

/--
A group is read from what stands between its parentheses, one level deeper.
-/
theorem reads_primary_group
    {opening closing : Token}
    {tokens later : List Token}
    {expression : Expression}
    {allowed : Prop}
    {inside : Parse SizedExpression}
    (opens : opening.kind = .leftParenthesis)
    (reads :
      Reads inside tokens allowed (.of expression) (closing :: later))
    (closes : closing.kind = .rightParenthesis) :
    Reads (primary inside) (opening :: tokens)
      (allowed ∧ expression.height + 1 ≤ nestingLimit)
      (.of (.group opening.position expression)) later := by
  refine (reads_peek? (opening :: tokens)).step ?_
  refine (reads_record _ (opening :: tokens)).step ?_
  simp only [opens]
  refine (reads_advance opening tokens).step (reads.bind ?_)
  exact (reads_expect closes .expectedGroupEnd later).step
    (reads_sized _ _ later)

/-- Where no unary operator stands, a primary expression is read. -/
theorem reads_unary_primary
    {token : Token}
    {tokens rest : List Token}
    {allowed : Prop}
    {result : SizedExpression}
    {operand inside : Parse SizedExpression}
    (unsigned : unaryOperator? token.kind = none)
    (reads : Reads (primary inside) (token :: tokens) allowed result rest) :
    Reads (unary operand inside) (token :: tokens) allowed result rest := by
  refine (reads_peek? (token :: tokens)).step ?_
  simp only [List.head?_cons, unsigned]
  exact reads

/-- A unary expression is read from its operator and its operand. -/
theorem reads_unary_operator
    {sign : Token}
    {operator : UnaryOperator}
    {tokens rest : List Token}
    {expression : Expression}
    {allowed : Prop}
    {operand : Parse SizedExpression}
    (inside : Parse SizedExpression)
    (signed : unaryOperator? sign.kind = some operator)
    (reads : Reads operand tokens allowed (.of expression) rest) :
    Reads (unary operand inside) (sign :: tokens)
      (allowed ∧ expression.height + 1 ≤ nestingLimit)
      (.of (.unary sign.position operator expression)) rest := by
  refine (reads_peek? (sign :: tokens)).step ?_
  simp only [List.head?_cons, signed]
  exact (reads_advance sign tokens).step (reads.bind (reads_sized _ _ rest))

/-- What is read with one level less is read as a nested operand. -/
theorem reads_nested_operand
    {tokens : List Token}
    {expression : Expression}
    (reads : ∀ levels, ReadsUpTo levels 0 tokens expression)
    (levels : Nat)
    (later : List Token) :
    Reads (NestedParsers.within levels).operand (tokens ++ later)
      (expression.FitsInside levels) (.of expression) later := by
  cases levels with
  | zero =>
      refine (reads_refuseDepth _ _ later).congr ?_
      simp [Expression.FitsInside]
  | succ levels =>
      refine (reads levels later (stopsAbove_zero later)).congr ?_
      simp only [Expression.Fits, Expression.FitsInside,
        Nat.add_le_add_iff_right]

/-- What is read with one level less is read as a nested expression. -/
theorem reads_nested_expression
    {tokens : List Token}
    {expression : Expression}
    (reads : ∀ levels, ReadsExpression levels tokens expression)
    (levels : Nat)
    {later : List Token}
    (ends : ¬BeginsWithOperator later) :
    Reads (NestedParsers.within levels).expression (tokens ++ later)
      (expression.FitsInside levels) (.of expression) later := by
  cases levels with
  | zero =>
      refine (reads_refuseDepth _ _ later).congr ?_
      simp [Expression.FitsInside]
  | succ levels =>
      have stops := (stopsAbove_six_iff later).mpr ends
      refine ((reads levels).upTo 6 expression.level_le later stops).congr ?_
      simp only [Expression.Fits, Expression.FitsInside,
        Nat.add_le_add_iff_right]

/-- Tokens that spell an expression are read as that expression. -/
theorem readsExpression_of_spells
    {tokens : List Token}
    {expression : Expression}
    (spelled : Spells tokens expression)
    (precedence : expression.RespectsPrecedence)
    (levels : Nat) :
    ReadsExpression levels tokens expression := by
  induction spelled generalizing levels with
  | @literal token value stands =>
      apply ReadsExpression.of_operand
      intro later _
      have unsigned : unaryOperator? token.kind = none := by
        unfold Token.literal? at stands
        split at stands <;> simp_all [unaryOperator?]
      refine (reads_unary_primary unsigned
        (reads_primary_literal stands _ later)).congr ?_
      simp [Expression.Fits, Expression.nesting, Expression.height,
        nestingLimit]
  | @reference token named =>
      apply ReadsExpression.of_operand
      intro later _
      have unsigned : unaryOperator? token.kind = none := by
        rw [named]
        rfl
      refine (reads_unary_primary unsigned
        (reads_primary_reference named _ later)).congr ?_
      simp [Expression.Fits, Expression.nesting, Expression.height,
        nestingLimit]
  | @unary sign operator tokens operand signed spelled hypothesis =>
      apply ReadsExpression.of_operand
      intro later _
      have operandReads :=
        reads_nested_operand
          (fun fewer =>
            (hypothesis precedence.2 fewer).upTo 0
              (Nat.le_of_eq precedence.1))
          levels later
      rw [← unaryOperator?_eq_leadingOperator?] at signed
      refine (reads_unary_operator _ signed operandReads).congr ?_
      simp only [Expression.Fits, Expression.FitsInside, Expression.nesting,
        Expression.height]
      omega
  | @binary sign operator leftTokens rightTokens left right leftSpelled
      begins signed rightSpelled leftHypothesis rightHypothesis =>
      obtain ⟨leftLevel, rightLevel, leftPrecedence, rightPrecedence⟩ :=
        precedence
      obtain ⟨level, leveled⟩ :=
        Nat.exists_eq_succ_of_ne_zero (Nat.ne_of_gt operator.level_pos)
      have leftGoesOn : GoesOnWith levels level leftTokens left := by
        apply (leftHypothesis leftPrecedence levels).first
        omega
      have rightReads : ReadsUpTo levels level rightTokens right := by
        apply (rightHypothesis rightPrecedence levels).upTo
        omega
      exact .of_chain (leftGoesOn.binary signed leveled rightReads) leveled
  | @group opening closing tokens inner opens spelled closes hypothesis =>
      apply ReadsExpression.of_operand
      intro later _
      have unsigned : unaryOperator? opening.kind = none := by
        rw [opens]
        rfl
      have ends : ¬BeginsWithOperator (closing :: later) := by
        rintro ⟨token, member, isOperator⟩
        cases member
        rw [closes] at isOperator
        cases isOperator
      have innerReads :=
        reads_nested_expression (hypothesis precedence) levels ends
      rw [List.cons_append, List.append_assoc, List.singleton_append]
      refine (reads_unary_primary unsigned
        (reads_primary_group opens innerReads closes)).congr ?_
      simp only [Expression.Fits, Expression.FitsInside, Expression.nesting,
        Expression.height]
      omega

end Parse

end OwlScript
