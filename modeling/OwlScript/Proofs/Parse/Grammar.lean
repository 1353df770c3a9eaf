import OwlScript.Number.Reading
import OwlScript.Proofs.Program.Shape
import OwlScript.Token.Basic

namespace OwlScript

/-!
# The grammar

The grammar says which tokens spell which programs.  It is written without
levels of operators: what tokens spell is ambiguous as long as only the tree
is looked at, and precedence is a condition on the tree by itself.

Statements follow each other with semicolons between them or without.  What
may come directly behind a statement is left open here as a condition on the
statement and the tokens behind it.  Two such conditions are of use.  The one
asks for a semicolon between any two statements.  The other only asks that an
expression at the end of a statement goes on as far as it can.
-/

namespace TokenKind

/-- The operator between two operands that a token is written for. -/
def binaryOperator? : TokenKind → Option BinaryOperator
  | .star => some (.arithmetic .multiply)
  | .slash => some (.arithmetic .divide)
  | .percent => some (.arithmetic .remainder)
  | .plus => some (.arithmetic .add)
  | .minus => some (.arithmetic .subtract)
  | .less => some (.order .less)
  | .lessEqual => some (.order .lessEqual)
  | .greater => some (.order .greater)
  | .greaterEqual => some (.order .greaterEqual)
  | .equalEqual => some .equal
  | .bangEqual => some .notEqual
  | .keyword .andWord => some .and
  | .keyword .orWord => some .or
  | _ => none

/-- The operator in front of an operand that a token is written for. -/
def leadingOperator? : TokenKind → Option UnaryOperator
  | .minus => some .negate
  | .bang => some .not
  | .keyword .notWord => some .not
  | _ => none

/-- Whether a token can be the first of an expression. -/
def opensExpression : TokenKind → Bool
  | .identifier => true
  | .integer => true
  | .float => true
  | .string => true
  | .keyword .trueWord => true
  | .keyword .falseWord => true
  | .keyword .nilWord => true
  | .keyword .notWord => true
  | .minus => true
  | .bang => true
  | .leftParenthesis => true
  | _ => false

/-- Whether a token can be the first of a statement. -/
def opensStatement : TokenKind → Bool
  | .keyword .letWord => true
  | .keyword .printWord => true
  | .keyword .ifWord => true
  | .keyword .whileWord => true
  | kind => kind.opensExpression

/-- An expression can be a statement by itself. -/
theorem opensStatement_of_opensExpression
    {kind : TokenKind}
    (opens : kind.opensExpression = true) :
    kind.opensStatement = true := by
  rw [← opens]
  revert opens
  unfold opensStatement
  split <;> simp [opensExpression]

/-- An operator in front opens an expression. -/
theorem opensExpression_of_leadingOperator?
    {kind : TokenKind}
    {operator : UnaryOperator}
    (signed : kind.leadingOperator? = some operator) :
    kind.opensExpression = true := by
  unfold leadingOperator? at signed
  split at signed <;> simp_all [opensExpression]

end TokenKind

namespace Token

/-- The value that the token stands for, if it is a literal. -/
def literal? (token : Token) : Option Value :=
  match token.kind with
  | .integer => (Number.readInteger token.lexeme).map Value.int
  | .float => (Number.readFloat token.lexeme).map Value.float
  | .string => some (.string token.lexeme)
  | .keyword .trueWord => some (.bool true)
  | .keyword .falseWord => some (.bool false)
  | .keyword .nilWord => some .nil
  | _ => none

/-- A literal opens an expression. -/
theorem opensExpression_of_literal?
    {token : Token}
    {value : Value}
    (stands : token.literal? = some value) :
    token.kind.opensExpression = true := by
  unfold literal? at stands
  split at stands <;> simp_all [TokenKind.opensExpression]

end Token

namespace Grammar

/-- Whether the first of the tokens stands at the position. -/
def BeginsAt (tokens : List Token) (position : Position) : Prop :=
  tokens.head?.map Token.position = some position

/-- Whether the first of the tokens is an operator between two operands. -/
def BeginsWithOperator (tokens : List Token) : Prop :=
  ∃ token ∈ tokens.head?, token.kind.binaryOperator?.isSome = true

/--
The tokens spell the expression, and every node of it has the position of the
first token that belongs to the node.
-/
inductive Spells : List Token → Expression → Prop where
  | literal
      {token : Token}
      {value : Value}
      (stands : token.literal? = some value) :
      Spells [token] (.literal token.position value)
  | reference
      {token : Token}
      (named : token.kind = .identifier) :
      Spells [token] (.reference token.position token.lexeme)
  | unary
      {sign : Token}
      {operator : UnaryOperator}
      {tokens : List Token}
      {operand : Expression}
      (signed : sign.kind.leadingOperator? = some operator)
      (spelled : Spells tokens operand) :
      Spells (sign :: tokens) (.unary sign.position operator operand)
  | binary
      {sign : Token}
      {operator : BinaryOperator}
      {leftTokens rightTokens : List Token}
      {left right : Expression}
      (leftSpelled : Spells leftTokens left)
      (begins :
        BeginsAt leftTokens (Expression.binary operator left right).position)
      (signed : sign.kind.binaryOperator? = some operator)
      (rightSpelled : Spells rightTokens right) :
      Spells (leftTokens ++ sign :: rightTokens) (.binary operator left right)
  | group
      {opening closing : Token}
      {tokens : List Token}
      {inner : Expression}
      (opens : opening.kind = .leftParenthesis)
      (spelled : Spells tokens inner)
      (closes : closing.kind = .rightParenthesis) :
      Spells (opening :: (tokens ++ [closing]))
        (.group opening.position inner)

/-- The tokens spell expressions, each of them behind a comma. -/
inductive SpellsArguments : List Token → List Expression → Prop where
  | none : SpellsArguments [] []
  | more
      {comma : Token}
      {tokens later : List Token}
      {argument : Expression}
      {arguments : List Expression}
      (separates : comma.kind = .comma)
      (spelled : Spells tokens argument)
      (rest : SpellsArguments later arguments) :
      SpellsArguments (comma :: (tokens ++ later)) (argument :: arguments)

/-- The parts of a program above its expressions. -/
inductive Phrase where
  | statement (statement : Statement)
  /-- Statements between braces. -/
  | block (body : List Statement)
  /-- What follows the first block of a conditional statement. -/
  | otherwise (elseBody : Option (List Statement))
  /-- Statements behind each other. -/
  | sequence (statements : List Statement)

/--
The tokens spell the phrase, and every statement has the position of its first
token.  The condition holds of each statement and the tokens of its block that
come behind it.
-/
inductive Derives
    (follows : Statement → List Token → Prop) :
    Phrase → List Token → Prop where
  | bind
      {keyword name equals : Token}
      {tokens : List Token}
      {value : Expression}
      (keyed : keyword.kind = .keyword .letWord)
      (named : name.kind = .identifier)
      (assigns : equals.kind = .assign)
      (spelled : Spells tokens value) :
      Derives follows
        (.statement (.bind keyword.position name.lexeme value))
        (keyword :: name :: equals :: tokens)
  | assign
      {name equals : Token}
      {tokens : List Token}
      {value : Expression}
      (named : name.kind = .identifier)
      (assigns : equals.kind = .assign)
      (spelled : Spells tokens value) :
      Derives follows
        (.statement (.assign name.position name.lexeme value))
        (name :: equals :: tokens)
  | print
      {keyword : Token}
      {tokens later : List Token}
      {argument : Expression}
      {arguments : List Expression}
      (keyed : keyword.kind = .keyword .printWord)
      (spelled : Spells tokens argument)
      (rest : SpellsArguments later arguments) :
      Derives follows
        (.statement (.print keyword.position (argument :: arguments)))
        (keyword :: (tokens ++ later))
  | branch
      {keyword : Token}
      {conditionTokens thenTokens elseTokens : List Token}
      {condition : Expression}
      {thenBody : List Statement}
      {elseBody : Option (List Statement)}
      (keyed : keyword.kind = .keyword .ifWord)
      (spelled : Spells conditionTokens condition)
      (thenDerived : Derives follows (.block thenBody) thenTokens)
      (elseDerived : Derives follows (.otherwise elseBody) elseTokens) :
      Derives follows
        (.statement
          (.branch keyword.position condition thenBody elseBody))
        (keyword :: (conditionTokens ++ (thenTokens ++ elseTokens)))
  | loop
      {keyword : Token}
      {conditionTokens bodyTokens : List Token}
      {condition : Expression}
      {body : List Statement}
      (keyed : keyword.kind = .keyword .whileWord)
      (spelled : Spells conditionTokens condition)
      (derived : Derives follows (.block body) bodyTokens) :
      Derives follows
        (.statement (.loop keyword.position condition body))
        (keyword :: (conditionTokens ++ bodyTokens))
  | evaluate
      {tokens : List Token}
      {expression : Expression}
      (spelled : Spells tokens expression)
      (begins : BeginsAt tokens (Statement.evaluate expression).position) :
      Derives follows (.statement (.evaluate expression)) tokens
  | block
      {opening closing : Token}
      {tokens : List Token}
      {body : List Statement}
      (opens : opening.kind = .leftBrace)
      (derived : Derives follows (.sequence body) tokens)
      (closes : closing.kind = .rightBrace) :
      Derives follows (.block body) (opening :: (tokens ++ [closing]))
  | noElse : Derives follows (.otherwise none) []
  | elseBlock
      {keyword : Token}
      {tokens : List Token}
      {body : List Statement}
      (keyed : keyword.kind = .keyword .elseWord)
      (derived : Derives follows (.block body) tokens) :
      Derives follows (.otherwise (some body)) (keyword :: tokens)
  | elseBranch
      {keyword : Token}
      {tokens : List Token}
      {position : Position}
      {condition : Expression}
      {thenBody : List Statement}
      {elseBody : Option (List Statement)}
      (keyed : keyword.kind = .keyword .elseWord)
      (derived :
        Derives follows
          (.statement (.branch position condition thenBody elseBody))
          tokens) :
      Derives follows
        (.otherwise (some [.branch position condition thenBody elseBody]))
        (keyword :: tokens)
  | empty : Derives follows (.sequence []) []
  | semicolon
      {separator : Token}
      {tokens : List Token}
      {statements : List Statement}
      (separates : separator.kind = .semicolon)
      (derived : Derives follows (.sequence statements) tokens) :
      Derives follows (.sequence statements) (separator :: tokens)
  | next
      {tokens later : List Token}
      {statement : Statement}
      {statements : List Statement}
      (first : Derives follows (.statement statement) tokens)
      (allowed : follows statement later)
      (rest : Derives follows (.sequence statements) later) :
      Derives follows (.sequence (statement :: statements)) (tokens ++ later)

/-- Whether the last part of the statement is an expression. -/
def EndsInExpression : Statement → Prop
  | .bind _ _ _ => True
  | .assign _ _ _ => True
  | .print _ _ => True
  | .branch _ _ _ _ => False
  | .loop _ _ _ => False
  | .evaluate _ => True

/-- The expression at the end of a statement does not go on behind it. -/
def Maximal (statement : Statement) (later : List Token) : Prop :=
  EndsInExpression statement → ¬BeginsWithOperator later

/-- A semicolon stands behind a statement unless its block ends there. -/
def Separated (_statement : Statement) (later : List Token) : Prop :=
  ∀ token ∈ later.head?, token.kind = .semicolon

/-- What ends in front of some tokens ends in front of more behind them. -/
theorem Maximal.append
    {statement : Statement}
    {tokens later : List Token}
    (maximal : Maximal statement tokens)
    (ends : ¬BeginsWithOperator later) :
    Maximal statement (tokens ++ later) := by
  intro endsInExpression
  cases tokens with
  | nil =>
      exact ends
  | cons first rest =>
      exact maximal endsInExpression

/-- Part of the tokens behind a statement do not go on with it either. -/
theorem Maximal.of_append
    {statement : Statement}
    {tokens later : List Token}
    (maximal : Maximal statement (tokens ++ later)) :
    Maximal statement tokens := by
  rintro endsInExpression ⟨token, member, isOperator⟩
  refine maximal endsInExpression ⟨token, ?_, isOperator⟩
  cases tokens with
  | nil =>
      cases member
  | cons first tokens =>
      exact member

/-- Tokens that spell an expression begin with one that opens it. -/
theorem Spells.exists_first
    {tokens : List Token}
    {expression : Expression}
    (spelled : Spells tokens expression) :
    ∃ first rest, tokens = first :: rest ∧
      first.kind.opensExpression = true ∧
      first.position = expression.position := by
  induction spelled with
  | @literal token value stands =>
      exact ⟨token, [], rfl, Token.opensExpression_of_literal? stands, rfl⟩
  | @reference token named =>
      exact ⟨token, [], rfl, by rw [named]; rfl, rfl⟩
  | @unary sign operator tokens operand signed spelled hypothesis =>
      exact ⟨sign, tokens, rfl,
        TokenKind.opensExpression_of_leadingOperator? signed, rfl⟩
  | @binary sign operator leftTokens rightTokens left right leftSpelled
      begins signed rightSpelled leftHypothesis rightHypothesis =>
      obtain ⟨first, rest, shape, opens, placed⟩ := leftHypothesis
      exact ⟨first, rest ++ sign :: rightTokens, by simp [shape], opens, placed⟩
  | @group opening closing tokens inner opens spelled closes hypothesis =>
      exact ⟨opening, tokens ++ [closing], rfl, by rw [opens]; rfl, rfl⟩

/-- No token of an expression is the end of the input. -/
theorem Spells.kind_ne_endOfInput
    {tokens : List Token}
    {expression : Expression}
    (spelled : Spells tokens expression) :
    ∀ token ∈ tokens, token.kind ≠ .endOfInput := by
  induction spelled with
  | literal stands =>
      intro token member ended
      rw [List.mem_singleton.mp member] at ended
      simp [Token.literal?, ended] at stands
  | reference named =>
      simp [named]
  | unary signed spelled hypothesis =>
      intro token member ended
      rcases List.mem_cons.mp member with isSign | inOperand
      · rw [← isSign, ended] at signed
        simp [TokenKind.leadingOperator?] at signed
      · exact hypothesis token inOperand ended
  | binary leftSpelled begins signed rightSpelled leftHypothesis
      rightHypothesis =>
      intro token member ended
      rcases List.mem_append.mp member with inLeft | behind
      · exact leftHypothesis token inLeft ended
      · rcases List.mem_cons.mp behind with isSign | inRight
        · rw [← isSign, ended] at signed
          simp [TokenKind.binaryOperator?] at signed
        · exact rightHypothesis token inRight ended
  | group opens spelled closes hypothesis =>
      intro token member
      simp only [List.mem_cons, List.mem_append, List.not_mem_nil,
        or_false] at member
      rcases member with rfl | inside | rfl
      · simp [opens]
      · exact hypothesis token inside
      · simp [closes]

/-- No token of arguments is the end of the input. -/
theorem SpellsArguments.kind_ne_endOfInput
    {tokens : List Token}
    {arguments : List Expression}
    (spelled : SpellsArguments tokens arguments) :
    ∀ token ∈ tokens, token.kind ≠ .endOfInput := by
  induction spelled with
  | none =>
      simp
  | more separates spelled rest hypothesis =>
      intro token member
      simp only [List.mem_cons, List.mem_append] at member
      rcases member with rfl | inFirst | inRest
      · simp [separates]
      · exact spelled.kind_ne_endOfInput token inFirst
      · exact hypothesis token inRest

/-- A semicolon never goes on with an expression. -/
theorem Separated.maximal
    {statement : Statement}
    {later : List Token}
    (separated : Separated statement later) :
    Maximal statement later := by
  rintro _ ⟨token, member, isOperator⟩
  rw [separated token member] at isOperator
  cases isOperator

variable {follows weaker : Statement → List Token → Prop}

/-- No token of a phrase is the end of the input. -/
theorem Derives.kind_ne_endOfInput
    {phrase : Phrase}
    {tokens : List Token}
    (derived : Derives follows phrase tokens) :
    ∀ token ∈ tokens, token.kind ≠ .endOfInput := by
  induction derived with
  | bind keyed named assigns spelled =>
      simpa [keyed, named, assigns] using spelled.kind_ne_endOfInput
  | assign named assigns spelled =>
      simpa [named, assigns] using spelled.kind_ne_endOfInput
  | print keyed spelled rest =>
      intro token member
      simp only [List.mem_cons, List.mem_append] at member
      rcases member with rfl | inFirst | inRest
      · simp [keyed]
      · exact spelled.kind_ne_endOfInput token inFirst
      · exact rest.kind_ne_endOfInput token inRest
  | branch keyed spelled thenDerived elseDerived thenHypothesis
      elseHypothesis =>
      intro token member
      simp only [List.mem_cons, List.mem_append] at member
      rcases member with rfl | inCondition | inThen | inElse
      · simp [keyed]
      · exact spelled.kind_ne_endOfInput token inCondition
      · exact thenHypothesis token inThen
      · exact elseHypothesis token inElse
  | loop keyed spelled derived hypothesis =>
      intro token member
      simp only [List.mem_cons, List.mem_append] at member
      rcases member with rfl | inCondition | inBody
      · simp [keyed]
      · exact spelled.kind_ne_endOfInput token inCondition
      · exact hypothesis token inBody
  | evaluate spelled begins =>
      exact spelled.kind_ne_endOfInput
  | block opens derived closes hypothesis =>
      intro token member
      simp only [List.mem_cons, List.mem_append, List.not_mem_nil,
        or_false] at member
      rcases member with rfl | inside | rfl
      · simp [opens]
      · exact hypothesis token inside
      · simp [closes]
  | noElse =>
      simp
  | elseBlock keyed derived hypothesis =>
      simpa [keyed] using hypothesis
  | elseBranch keyed derived hypothesis =>
      simpa [keyed] using hypothesis
  | empty =>
      simp
  | semicolon separates derived hypothesis =>
      simpa [separates] using hypothesis
  | next first allowed rest firstHypothesis restHypothesis =>
      intro token member
      rcases List.mem_append.mp member with inFirst | inRest
      · exact firstHypothesis token inFirst
      · exact restHypothesis token inRest

/-- What may stand behind a statement may be widened. -/
theorem Derives.mono
    (weakens :
      ∀ statement later, follows statement later → weaker statement later)
    {phrase : Phrase}
    {tokens : List Token}
    (derived : Derives follows phrase tokens) :
    Derives weaker phrase tokens := by
  induction derived with
  | bind keyed named assigns spelled =>
      exact .bind keyed named assigns spelled
  | assign named assigns spelled =>
      exact .assign named assigns spelled
  | print keyed spelled rest =>
      exact .print keyed spelled rest
  | branch keyed spelled _ _ thenHypothesis elseHypothesis =>
      exact .branch keyed spelled thenHypothesis elseHypothesis
  | loop keyed spelled _ hypothesis =>
      exact .loop keyed spelled hypothesis
  | evaluate spelled begins =>
      exact .evaluate spelled begins
  | block opens _ closes hypothesis =>
      exact .block opens hypothesis closes
  | noElse =>
      exact .noElse
  | elseBlock keyed _ hypothesis =>
      exact .elseBlock keyed hypothesis
  | elseBranch keyed _ hypothesis =>
      exact .elseBranch keyed hypothesis
  | empty =>
      exact .empty
  | semicolon separates _ hypothesis =>
      exact .semicolon separates hypothesis
  | next _ allowed _ firstHypothesis restHypothesis =>
      exact .next firstHypothesis (weakens _ _ allowed) restHypothesis

/-- Any number of semicolons may stand in front of statements. -/
theorem Derives.semicolons
    {separators tokens : List Token}
    {statements : List Statement}
    (derived : Derives follows (.sequence statements) tokens)
    (separate : ∀ token ∈ separators, token.kind = .semicolon) :
    Derives follows (.sequence statements) (separators ++ tokens) := by
  induction separators with
  | nil =>
      exact derived
  | cons separator separators hypothesis =>
      rw [List.forall_mem_cons] at separate
      exact .semicolon separate.1 (hypothesis separate.2)

/-- Tokens that spell a statement begin with one that opens it. -/
theorem Derives.exists_first
    {statement : Statement}
    {tokens : List Token}
    (derived : Derives follows (.statement statement) tokens) :
    ∃ first rest, tokens = first :: rest ∧
      first.kind.opensStatement = true ∧
      first.position = statement.position := by
  cases derived with
  | bind keyed named assigns spelled =>
      exact ⟨_, _, rfl, by rw [keyed]; rfl, rfl⟩
  | assign named assigns spelled =>
      exact ⟨_, _, rfl, by rw [named]; rfl, rfl⟩
  | print keyed spelled rest =>
      exact ⟨_, _, rfl, by rw [keyed]; rfl, rfl⟩
  | branch keyed spelled thenDerived elseDerived =>
      exact ⟨_, _, rfl, by rw [keyed]; rfl, rfl⟩
  | loop keyed spelled derived =>
      exact ⟨_, _, rfl, by rw [keyed]; rfl, rfl⟩
  | evaluate spelled begins =>
      obtain ⟨first, rest, shape, opens, placed⟩ := spelled.exists_first
      exact ⟨first, rest, shape,
        TokenKind.opensStatement_of_opensExpression opens, placed⟩

end Grammar

/--
The tokens spell the program up to positions, with semicolons between its
statements and at most one end token behind them.
-/
def Program.SpelledBy (program : Program) (tokens : List Token) : Prop :=
  ∃ (placed : Program) (body ending : List Token),
    placed.unplaced = program.unplaced ∧
    Grammar.Derives Grammar.Separated (.sequence placed.statements) body ∧
    tokens = body ++ ending ∧
    (ending = [] ∨ ∃ last, ending = [last] ∧ last.kind = .endOfInput)

end OwlScript
