import OwlScript.Proofs.Parse.SpelledParts

namespace OwlScript

/-!
# Tokens that become literals

A token of a number has one place in the grammar only: it is a literal.  So
every such token among those that spell a phrase is a node of one of its
expressions.
-/

/-- Whether the tokens of the kind are numbers. -/
def TokenKind.isNumber : TokenKind → Bool
  | .integer => true
  | .float => true
  | _ => false

/-- The token stands for a literal that is a node of one of the expressions. -/
def Token.IsLiteralIn (token : Token) (expressions : List Expression) : Prop :=
  ∃ expression ∈ expressions, ∃ value,
    token.literal? = some value ∧
      .literal token.position value ∈ expression.nodes

variable {tokens : List Token}

/-- What is a literal in some expressions is one in more of them. -/
theorem Token.IsLiteralIn.mono
    {token : Token}
    {expressions others : List Expression}
    (isLiteral : token.IsLiteralIn expressions)
    (among : expressions ⊆ others) :
    token.IsLiteralIn others := by
  obtain ⟨expression, member, value, stands, isNode⟩ := isLiteral
  exact ⟨expression, among member, value, stands, isNode⟩

namespace TokenKind

variable {kind : TokenKind}

/-- No number begins with a unary operator. -/
theorem leadingOperator?_of_isNumber (isNumber : kind.isNumber = true) :
    kind.leadingOperator? = none := by
  cases kind with
  | integer =>
      rfl
  | float =>
      rfl
  | _ =>
      cases isNumber

/-- No number is a binary operator. -/
theorem binaryOperator?_of_isNumber (isNumber : kind.isNumber = true) :
    kind.binaryOperator? = none := by
  cases kind with
  | integer =>
      rfl
  | float =>
      rfl
  | _ =>
      cases isNumber

end TokenKind

namespace Grammar

/-- No token of a kind with another place in the grammar is a number. -/
theorem not_isNumber
    {token : Token}
    {kind : TokenKind}
    (isKind : token.kind = kind)
    (other : kind.isNumber = false) :
    ¬token.kind.isNumber = true := by
  rw [isKind, other]
  exact Bool.false_ne_true

/-- Every number among the tokens of an expression is a node of it. -/
theorem Spells.exists_literal
    {expression : Expression}
    (spelled : Spells tokens expression) :
    ∀ token ∈ tokens, token.kind.isNumber = true →
      ∃ value, token.literal? = some value ∧
        .literal token.position value ∈ expression.nodes := by
  induction spelled with
  | @literal token value stands =>
      intro other member _
      rw [List.mem_singleton.1 member]
      exact ⟨value, stands, List.mem_singleton.2 rfl⟩
  | reference named =>
      intro token member isNumber
      rw [List.mem_singleton.1 member] at isNumber
      exact (not_isNumber named rfl isNumber).elim
  | unary signed spelled hypothesis =>
      intro token member isNumber
      rcases List.mem_cons.1 member with rfl | inOperand
      · rw [TokenKind.leadingOperator?_of_isNumber isNumber] at signed
        cases signed
      · obtain ⟨value, stands, isNode⟩ := hypothesis token inOperand isNumber
        exact ⟨value, stands, List.mem_append_left _ isNode⟩
  | binary leftSpelled begins signed rightSpelled leftHypothesis
      rightHypothesis =>
      intro token member isNumber
      rcases List.mem_append.1 member with inLeft | behind
      · obtain ⟨value, stands, isNode⟩ := leftHypothesis token inLeft isNumber
        exact ⟨value, stands, List.mem_append_left _ isNode⟩
      · rcases List.mem_cons.1 behind with rfl | inRight
        · rw [TokenKind.binaryOperator?_of_isNumber isNumber] at signed
          cases signed
        · obtain ⟨value, stands, isNode⟩ :=
            rightHypothesis token inRight isNumber
          exact ⟨value, stands,
            List.mem_append_right _ (List.mem_append_left _ isNode)⟩
  | group opens spelled closes hypothesis =>
      intro token member isNumber
      simp only [List.mem_cons, List.mem_append, List.not_mem_nil,
        or_false] at member
      rcases member with rfl | inside | rfl
      · exact (not_isNumber opens rfl isNumber).elim
      · obtain ⟨value, stands, isNode⟩ := hypothesis token inside isNumber
        exact ⟨value, stands, List.mem_append_left _ isNode⟩
      · exact (not_isNumber closes rfl isNumber).elim

/-- The numbers among the tokens are literals in the expressions. -/
def NumbersAreIn (expressions : List Expression) (tokens : List Token) : Prop :=
  ∀ token ∈ tokens, token.kind.isNumber = true →
    token.IsLiteralIn expressions

namespace NumbersAreIn

variable {expressions : List Expression}

/-- Among no tokens there are no numbers. -/
theorem nothing (expressions : List Expression) :
    NumbersAreIn expressions [] :=
  nofun

/-- A token with another place in the grammar may stand in front. -/
theorem behind
    {token : Token}
    {kind : TokenKind}
    (isKind : token.kind = kind)
    (other : kind.isNumber = false)
    (numbers : NumbersAreIn expressions tokens) :
    NumbersAreIn expressions (token :: tokens) :=
  List.forall_mem_cons.2
    ⟨fun isNumber => (not_isNumber isKind other isNumber).elim, numbers⟩

/-- The numbers among two rows of tokens are those among each of them. -/
theorem append
    {more : List Token}
    (front : NumbersAreIn expressions tokens)
    (back : NumbersAreIn expressions more) :
    NumbersAreIn expressions (tokens ++ more) :=
  List.forall_mem_append.2 ⟨front, back⟩

/-- Numbers that are literals in some expressions are literals in more. -/
theorem mono
    {others : List Expression}
    (numbers : NumbersAreIn expressions tokens)
    (among : expressions ⊆ others) :
    NumbersAreIn others tokens :=
  fun token member isNumber => (numbers token member isNumber).mono among

end NumbersAreIn

/-- The numbers that spell an expression are its literals. -/
theorem Spells.numbersAreIn
    {expression : Expression}
    {expressions : List Expression}
    (spelled : Spells tokens expression)
    (among : expression ∈ expressions) :
    NumbersAreIn expressions tokens :=
  fun token member isNumber =>
    ⟨expression, among, spelled.exists_literal token member isNumber⟩

/-- The numbers that spell arguments are literals in them. -/
theorem SpellsArguments.numbersAreIn
    {arguments : List Expression}
    (spelled : SpellsArguments tokens arguments) :
    NumbersAreIn arguments tokens := by
  induction spelled with
  | none =>
      exact .nothing []
  | more separates spelled rest hypothesis =>
      refine .behind separates rfl (.append ?_ ?_)
      · exact spelled.numbersAreIn List.mem_cons_self
      · exact hypothesis.mono (List.subset_cons_self _ _)

/-- Every number among the tokens of a phrase is a literal in it. -/
theorem Derives.numbersAreIn
    {follows : Statement → List Token → Prop}
    {phrase : Phrase}
    (derived : Derives follows phrase tokens) :
    NumbersAreIn phrase.expressions tokens := by
  induction derived with
  | bind keyed named assigns spelled =>
      refine .behind keyed rfl (.behind named rfl (.behind assigns rfl ?_))
      exact spelled.numbersAreIn List.mem_cons_self
  | assign named assigns spelled =>
      refine .behind named rfl (.behind assigns rfl ?_)
      exact spelled.numbersAreIn List.mem_cons_self
  | print keyed spelled rest =>
      refine .behind keyed rfl (.append ?_ ?_)
      · exact spelled.numbersAreIn List.mem_cons_self
      · exact rest.numbersAreIn.mono (List.subset_cons_self _ _)
  | branch keyed spelled thenDerived elseDerived thenHypothesis
      elseHypothesis =>
      refine .behind keyed rfl (.append ?_ (.append ?_ ?_))
      · exact spelled.numbersAreIn List.mem_cons_self
      · exact thenHypothesis.mono
          (List.subset_cons_of_subset _ (List.subset_append_left _ _))
      · exact elseHypothesis.mono
          (List.subset_cons_of_subset _ (List.subset_append_right _ _))
  | loop keyed spelled derived hypothesis =>
      refine .behind keyed rfl (.append ?_ ?_)
      · exact spelled.numbersAreIn List.mem_cons_self
      · exact hypothesis.mono (List.subset_cons_self _ _)
  | evaluate spelled begins =>
      exact spelled.numbersAreIn List.mem_cons_self
  | block opens derived closes hypothesis =>
      refine .behind opens rfl (.append hypothesis ?_)
      exact .behind closes rfl (.nothing _)
  | noElse =>
      exact .nothing []
  | elseBlock keyed derived hypothesis =>
      exact .behind keyed rfl hypothesis
  | @elseBranch _ _ position condition thenBody elseBody keyed derived
      hypothesis =>
      have onlyBranch :
          (Phrase.otherwise
              (some [.branch position condition thenBody
                elseBody])).expressions =
            (Statement.branch position condition thenBody
              elseBody).expressions :=
        List.append_nil _
      rw [onlyBranch]
      exact .behind keyed rfl hypothesis
  | empty =>
      exact .nothing []
  | semicolon separates derived hypothesis =>
      exact .behind separates rfl hypothesis
  | next first allowed rest firstHypothesis restHypothesis =>
      refine .append ?_ ?_
      · exact firstHypothesis.mono (List.subset_append_left _ _)
      · exact restHypothesis.mono (List.subset_append_right _ _)

end Grammar

end OwlScript
