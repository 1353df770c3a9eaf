import OwlScript.Proofs.Parse.Grammar
import OwlScript.Proofs.Parse.Reading

namespace OwlScript

/-!
# Levels of operators

The tower of parsers for expressions has one storey for each level of
operators.  A storey reads operands of the storey below, and stops in front of
a token that is no operator of its own level.
-/

/-- The operators that a storey reads, where the lowest storey is zero. -/
def OperatorLevel.above (level : Nat) : OperatorLevel :=
  OperatorLevel.all.getD level []

/-- The storeys read the operators in the order of their levels. -/
theorem OperatorLevel.lookup_above
    (level : Nat)
    (kind : TokenKind) :
    (OperatorLevel.above level).lookup kind =
      kind.binaryOperator?.filter fun operator =>
        operator.level == level + 1 := by
  match level with
  | 0 | 1 | 2 | 3 | 4 | 5 =>
      cases kind with
      | keyword word =>
          cases word <;> rfl
      | _ =>
          rfl
  | level + 6 =>
      have beyond : OperatorLevel.above (level + 6) = [] := rfl
      rw [beyond, List.lookup_nil, eq_comm, Option.filter_eq_none_iff]
      intro operator _
      have bound := operator.level_le
      simp only [beq_iff_eq]
      omega

/-- The parser takes the same tokens for operators in front as the grammar. -/
theorem Parse.unaryOperator?_eq_leadingOperator? (kind : TokenKind) :
    unaryOperator? kind = kind.leadingOperator? := by
  cases kind with
  | keyword word =>
      cases word <;> rfl
  | _ =>
      rfl

namespace Grammar

/-- The first of the tokens is no operator of the level or a tighter one. -/
def StopsAbove (level : Nat) (tokens : List Token) : Prop :=
  ∀ token ∈ tokens.head?, ∀ operator,
    token.kind.binaryOperator? = some operator → level < operator.level

/-- Nothing binds closer than a primary, so every list of tokens stops there. -/
theorem stopsAbove_zero (tokens : List Token) : StopsAbove 0 tokens :=
  fun _ _ operator _ => operator.level_pos

/-- Tokens that stop a level stop every level that binds closer. -/
theorem StopsAbove.mono
    {level lower : Nat}
    {tokens : List Token}
    (stops : StopsAbove level tokens)
    (below : lower ≤ level) :
    StopsAbove lower tokens :=
  fun token member operator signed =>
    Nat.lt_of_le_of_lt below (stops token member operator signed)

/-- Above the loosest level no operator is left to go on with. -/
theorem stopsAbove_six_iff (tokens : List Token) :
    StopsAbove 6 tokens ↔ ¬BeginsWithOperator tokens := by
  constructor
  · rintro stops ⟨token, member, isOperator⟩
    obtain ⟨operator, signed⟩ := Option.isSome_iff_exists.mp isOperator
    have beyond := stops token member operator signed
    exact Nat.not_lt.mpr operator.level_le beyond
  · intro ends token member operator signed
    exact (ends ⟨token, member, Option.isSome_iff_exists.mpr
      ⟨operator, signed⟩⟩).elim

end Grammar

namespace Parse

open Grammar

/-- The storeys of the tower of parsers over the given operands. -/
def upTo (operand : Parse SizedExpression) : Nat → Parse SizedExpression
  | 0 => operand
  | level + 1 => chain (OperatorLevel.above level) (upTo operand level)

/-- The whole tower has six storeys. -/
theorem overAllLevels_eq_upTo (operand : Parse SizedExpression) :
    overAllLevels operand = upTo operand 6 :=
  rfl

/-- An expression is read at its height, if the height is allowed. -/
theorem reads_sized
    (expression : Expression)
    (height : Nat)
    (tokens : List Token) :
    Reads (sized expression height) tokens (height ≤ nestingLimit)
      ⟨expression, height⟩ tokens := by
  intro state here
  unfold sized
  constructor
  · intro fits
    rw [if_neg (Nat.not_lt.mpr fits)]
    exact ⟨state, rfl, here⟩
  · intro high
    rw [if_pos (Nat.not_le.mp high)]
    exact ⟨expression.position, state, rfl⟩

/-- A leaf takes one token and is of height one. -/
theorem reads_leaf
    (expression : Expression)
    (token : Token)
    (tokens : List Token) :
    Reads (leaf expression) (token :: tokens) True ⟨expression, 1⟩ tokens := by
  refine (reads_advance token tokens).step ?_
  have fits : 1 ≤ nestingLimit := by decide
  exact (reads_sized expression 1 tokens).congr (iff_true_intro fits)

/-- An operator of the level is taken. -/
theorem reads_acceptOperator
    {level : Nat}
    {token : Token}
    {operator : BinaryOperator}
    (signed : token.kind.binaryOperator? = some operator)
    (leveled : operator.level = level + 1)
    (tokens : List Token) :
    Reads (acceptOperator (OperatorLevel.above level)) (token :: tokens) True
      (some operator) tokens := by
  have found :
      (OperatorLevel.above level).lookup token.kind = some operator := by
    simp [OperatorLevel.lookup_above, signed, leveled]
  refine (reads_peek? (token :: tokens)).step ?_
  simp only [List.head?_cons, found]
  exact (reads_advance token tokens).step (.pure (some operator) tokens)

/-- Where no operator of the level stands, no token is taken. -/
theorem reads_acceptOperator_none
    {level : Nat}
    {tokens : List Token}
    (absent :
      ∀ token ∈ tokens.head?,
        (OperatorLevel.above level).lookup token.kind = none) :
    Reads (acceptOperator (OperatorLevel.above level)) tokens True none
      tokens := by
  refine (reads_peek? tokens).step ?_
  cases tokens with
  | nil =>
      exact .pure none []
  | cons token later =>
      have missing := absent token rfl
      simp only [List.head?_cons, missing]
      exact .pure none (token :: later)

/-- A storey is done in front of a token that no storey up to it reads. -/
theorem reads_chainFrom_stop
    {level : Nat}
    {tokens : List Token}
    (operand : Parse SizedExpression)
    (rounds : List Token)
    (left : SizedExpression)
    (stops : StopsAbove (level + 1) tokens) :
    Reads (chainFrom (OperatorLevel.above level) operand rounds left) tokens
      True left tokens := by
  cases rounds with
  | nil =>
      exact .pure left tokens
  | cons round rounds =>
      refine (reads_acceptOperator_none ?_).step (.pure left tokens)
      intro token member
      rw [OperatorLevel.lookup_above, Option.filter_eq_none_iff]
      intro operator signed
      have beyond := stops token member operator signed
      simp only [beq_iff_eq]
      omega

/-- An operator of the level, an operand, and what goes on behind them. -/
theorem reads_chainFrom_operator
    {level : Nat}
    {token round : Token}
    {rounds tokens middle rest : List Token}
    {operator : BinaryOperator}
    {operand : Parse SizedExpression}
    {left right result : SizedExpression}
    {rightAllowed allowed : Prop}
    (signed : token.kind.binaryOperator? = some operator)
    (leveled : operator.level = level + 1)
    (rightReads : Reads operand tokens rightAllowed right middle)
    (goesOn :
      Reads
        (chainFrom (OperatorLevel.above level) operand rounds
          ⟨.binary operator left.expression right.expression,
            max left.height right.height + 1⟩)
        middle allowed result rest) :
    Reads
      (chainFrom (OperatorLevel.above level) operand (round :: rounds) left)
      (token :: tokens)
      (rightAllowed ∧
        (max left.height right.height + 1 ≤ nestingLimit ∧ allowed))
      result rest :=
  (reads_acceptOperator signed leveled tokens).step
    (rightReads.bind ((reads_sized _ _ middle).bind goesOn))

end Parse

end OwlScript
