import OwlScript.Proofs.Parse.SyntaxFaults
import OwlScript.Proofs.Program.Parts

namespace OwlScript

/-!
# Where what is parsed comes from

Whatever a parser makes, it makes of the tokens it is given: the names in a
program are the lexemes of identifiers, and its nodes stand where tokens stand.
The same holds of a fault, which is one of those that the tokens can have.
-/

/-- The name is that of an identifier among the tokens. -/
def Token.IsName (tokens : List Token) (name : String) : Prop :=
  ∃ token ∈ tokens, token.kind = .identifier ∧ token.lexeme = name

/-- The names and the positions in an expression are those of tokens. -/
structure Expression.IsMadeOf
    (tokens : List Token)
    (expression : Expression) : Prop where
  names : ∀ name ∈ expression.names, Token.IsName tokens name
  positions :
    ∀ position ∈ expression.positions, Token.StandsAt tokens position

/--
The name that a statement gives a value is that of a token, and that is where
an assignment stands.
-/
def Statement.TargetIsMadeOf (tokens : List Token) : Statement → Prop
  | .bind _ name _ => Token.IsName tokens name
  | .assign position name _ =>
      ∃ token ∈ tokens,
        token.kind = .identifier ∧ token.lexeme = name ∧
          token.position = position
  | _ => True

/-- What is in the statement comes from the tokens. -/
structure Statement.IsMadeOf
    (tokens : List Token)
    (statement : Statement) : Prop where
  expressions :
    ∀ expression ∈ statement.expressions, expression.IsMadeOf tokens
  targets :
    ∀ simple ∈ statement.simpleStatements, simple.TargetIsMadeOf tokens

variable {tokens : List Token}

namespace Expression

variable {expression left right inner : Expression}
variable {token : Token}

/-- An expression made of tokens stands at the place of one of them. -/
theorem IsMadeOf.isPlace (isMadeOf : expression.IsMadeOf tokens) :
    Token.IsPlace tokens expression.position :=
  (isMadeOf.positions _ expression.position_mem_positions).isPlace

/-- A literal at a token is made of it. -/
theorem IsMadeOf.literal
    (member : token ∈ tokens)
    (notEnd : token.kind ≠ .endOfInput)
    (value : Value) :
    (literal token.position value).IsMadeOf tokens where
  names := nofun
  positions := by
    rintro position ⟨_⟩
    · exact ⟨token, member, notEnd, rfl⟩
    · contradiction

/-- A reference to an identifier is made of it. -/
theorem IsMadeOf.reference
    (member : token ∈ tokens)
    (isIdentifier : token.kind = .identifier) :
    (reference token.position token.lexeme).IsMadeOf tokens where
  names := by
    intro name isName
    rw [List.mem_singleton.1 isName]
    exact ⟨token, member, isIdentifier, rfl⟩
  positions := by
    intro position isPosition
    rw [List.mem_singleton.1 isPosition]
    exact ⟨token, member, by rw [isIdentifier]; decide, rfl⟩

/-- A unary expression is made of tokens if its operand is. -/
theorem IsMadeOf.unary
    (member : token ∈ tokens)
    (notEnd : token.kind ≠ .endOfInput)
    (isMadeOf : inner.IsMadeOf tokens)
    (operator : UnaryOperator) :
    (unary token.position operator inner).IsMadeOf tokens where
  names := isMadeOf.names
  positions := by
    simp only [Expression.positions, List.forall_mem_cons]
    exact ⟨⟨token, member, notEnd, rfl⟩, isMadeOf.positions⟩

/-- A group is made of tokens if what stands inside is. -/
theorem IsMadeOf.group
    (member : token ∈ tokens)
    (notEnd : token.kind ≠ .endOfInput)
    (isMadeOf : inner.IsMadeOf tokens) :
    (group token.position inner).IsMadeOf tokens where
  names := isMadeOf.names
  positions := by
    simp only [Expression.positions, List.forall_mem_cons]
    exact ⟨⟨token, member, notEnd, rfl⟩, isMadeOf.positions⟩

/-- A binary expression is made of tokens if its operands are. -/
theorem IsMadeOf.binary
    (leftIsMadeOf : left.IsMadeOf tokens)
    (rightIsMadeOf : right.IsMadeOf tokens)
    (operator : BinaryOperator) :
    (binary operator left right).IsMadeOf tokens where
  names := List.forall_mem_append.2 ⟨leftIsMadeOf.names, rightIsMadeOf.names⟩
  positions := by
    simp only [Expression.positions, List.forall_mem_cons,
      List.forall_mem_append]
    exact ⟨leftIsMadeOf.positions _ left.position_mem_positions,
      leftIsMadeOf.positions, rightIsMadeOf.positions⟩

end Expression

namespace Statement

variable {value condition : Expression}
variable {body thenBody : List Statement}
variable {elseBody : Option (List Statement)}

/-- The expressions in a block made of tokens are made of them. -/
theorem forall_mem_blockExpressions
    (isMadeOf : ∀ statement ∈ body, statement.IsMadeOf tokens) :
    ∀ expression ∈ blockExpressions body, expression.IsMadeOf tokens := by
  induction body with
  | nil =>
      exact nofun
  | cons statement rest hypothesis =>
      rw [List.forall_mem_cons] at isMadeOf
      exact List.forall_mem_append.2
        ⟨isMadeOf.1.expressions, hypothesis isMadeOf.2⟩

/-- The names given in a block made of tokens are among them. -/
theorem forall_mem_blockSimpleStatements
    (isMadeOf : ∀ statement ∈ body, statement.IsMadeOf tokens) :
    ∀ simple ∈ blockSimpleStatements body, simple.TargetIsMadeOf tokens := by
  induction body with
  | nil =>
      exact nofun
  | cons statement rest hypothesis =>
      rw [List.forall_mem_cons] at isMadeOf
      exact List.forall_mem_append.2
        ⟨isMadeOf.1.targets, hypothesis isMadeOf.2⟩

/-- A statement that holds none is made of what its expressions are. -/
theorem IsMadeOf.of_isSimple
    {statement : Statement}
    (simple : statement.isSimple = true)
    (expressions :
      ∀ expression ∈ statement.expressions, expression.IsMadeOf tokens)
    (target : statement.TargetIsMadeOf tokens) :
    statement.IsMadeOf tokens where
  expressions := expressions
  targets := by
    rw [simpleStatements_of_isSimple simple, List.forall_mem_singleton]
    exact target

/-- A conditional statement is made of tokens if its parts are. -/
theorem IsMadeOf.branch
    (conditionIsMadeOf : condition.IsMadeOf tokens)
    (thenIsMadeOf : ∀ statement ∈ thenBody, statement.IsMadeOf tokens)
    (elseIsMadeOf :
      ∀ body ∈ elseBody, ∀ statement ∈ body, statement.IsMadeOf tokens)
    (position : Position) :
    (branch position condition thenBody elseBody).IsMadeOf tokens := by
  constructor
  · simp only [Statement.expressions, List.forall_mem_cons,
      List.forall_mem_append]
    refine ⟨conditionIsMadeOf, forall_mem_blockExpressions thenIsMadeOf, ?_⟩
    cases elseBody with
    | none =>
        exact List.forall_mem_nil _
    | some body =>
        exact forall_mem_blockExpressions (elseIsMadeOf body rfl)
  · simp only [simpleStatements, List.forall_mem_append]
    refine ⟨forall_mem_blockSimpleStatements thenIsMadeOf, ?_⟩
    cases elseBody with
    | none =>
        exact List.forall_mem_nil _
    | some body =>
        exact forall_mem_blockSimpleStatements (elseIsMadeOf body rfl)

/-- A loop is made of tokens if its parts are. -/
theorem IsMadeOf.loop
    (conditionIsMadeOf : condition.IsMadeOf tokens)
    (bodyIsMadeOf : ∀ statement ∈ body, statement.IsMadeOf tokens)
    (position : Position) :
    (loop position condition body).IsMadeOf tokens where
  expressions :=
    List.forall_mem_cons.2
      ⟨conditionIsMadeOf, forall_mem_blockExpressions bodyIsMadeOf⟩
  targets := forall_mem_blockSimpleStatements bodyIsMadeOf

end Statement

namespace Parse

variable {α β : Type}

/--
The parser takes what it makes from the tokens.  What it reads is as the given
condition says, it leaves some of them, and it stops only with faults of them.
-/
def DrawsOn
    (tokens : List Token)
    (condition : α → Prop)
    (parser : Parse α) :
    Prop :=
  ∀ state : ParseState, state.IsAmong tokens →
    match parser state with
    | .ok value final => condition value ∧ final.IsAmong tokens
    | .error fault final => final.StopsWith tokens fault

namespace DrawsOn

variable {condition : α → Prop} {goal : β → Prop}
variable {parser : Parse α} {next : α → Parse β}

/-- A value that is given at once draws on no token. -/
theorem pure {value : α} (holds : condition value) :
    DrawsOn tokens condition (Pure.pure value) :=
  fun _ isAmong => ⟨holds, isAmong⟩

/-- A fault that the tokens can have may be thrown. -/
theorem throw
    {fault : Diagnostic}
    (isFault : IsSyntaxFault tokens fault)
    (other : fault.message ≠ SyntaxFault.integerOutOfRange.message) :
    DrawsOn tokens condition (MonadExcept.throw fault) :=
  fun _ isAmong => .elsewhere isFault other isAmong

/-- A fault that names no token may be thrown at any place of them. -/
theorem throwPlain
    {fault : SyntaxFault}
    {position : Position}
    (isPlain : fault.IsPlain)
    (isPlace : Token.IsPlace tokens position) :
    DrawsOn tokens condition (MonadExcept.throw (fault.located position)) :=
  .throw (.plain isPlain isPlace) (isPlain.message_ne (by trivial))

/-- The refusal of a nesting level may be thrown at any place of them. -/
theorem throwTooDeep
    {position : Position}
    (isPlace : Token.IsPlace tokens position) :
    DrawsOn tokens condition (MonadExcept.throw (tooDeepAt position)) :=
  have isPlain : SyntaxFault.tooDeep.IsPlain := trivial
  .throw (.tooDeep isPlace) (isPlain.message_ne (by trivial))

/-- What draws on the tokens does so step by step. -/
theorem bind
    (first : DrawsOn tokens condition parser)
    (second : ∀ value, condition value → DrawsOn tokens goal (next value)) :
    DrawsOn tokens goal (parser >>= next) := by
  intro state isAmong
  rw [bind_apply]
  have here := first state isAmong
  cases read : parser state with
  | error fault final =>
      rw [read] at here
      exact here
  | ok value final =>
      rw [read] at here
      exact second value here.1 final here.2

/-- A change that leaves some of the tokens. -/
theorem ofModify
    {change : ParseState → ParseState}
    (keeps :
      ∀ state : ParseState,
        (change state).rest ⊆ state.rest ∧
          (change state).ending = state.ending ∧
            (change state).events = state.events) :
    DrawsOn tokens (fun _ => True) (modify change : Parse Unit) := by
  intro state isAmong
  obtain ⟨rest, ending, events⟩ := keeps state
  refine ⟨trivial, List.Subset.trans rest isAmong.rest,
    ending.trans isAmong.ending, ?_⟩
  intro position member
  exact isAmong.integers position (events ▸ member)

end DrawsOn

/-- The state of the parser is always among the tokens. -/
theorem drawsOn_get :
    DrawsOn tokens (ParseState.IsAmong tokens) (get : Parse ParseState) :=
  fun _ isAmong => ⟨isAmong, isAmong⟩

/-- Taking a token draws on the tokens. -/
theorem drawsOn_advance : DrawsOn tokens (fun _ => True) advance :=
  .ofModify fun _ => ⟨(List.tail_sublist _).subset, rfl, rfl⟩

/-- An event may be recorded unless it notes an integer that cannot be read. -/
theorem drawsOn_record
    {event : ParseEvent}
    (readable :
      ∀ position, event = .primary position .integer →
        Token.HasInteger tokens position) :
    DrawsOn tokens (fun _ => True) (record event) :=
  fun _ isAmong => ⟨trivial, isAmong.noting readable⟩

/-- Skipping semicolons draws on the tokens. -/
theorem drawsOn_skipSemicolons :
    DrawsOn tokens (fun _ => True) skipSemicolons :=
  .ofModify fun _ => ⟨(List.dropWhile_sublist _).subset, rfl, rfl⟩

/-- The next token is one of the tokens. -/
theorem drawsOn_peek? :
    DrawsOn tokens (fun next => ∀ token ∈ next, token ∈ tokens) peek? :=
  fun _ isAmong =>
    ⟨fun _ isNext => isAmong.rest (List.mem_of_head? isNext), isAmong⟩

/-- Looking at the token behind it draws on the tokens. -/
theorem drawsOn_peekSecond? :
    DrawsOn tokens (fun _ => True) peekSecond? :=
  fun _ isAmong => ⟨trivial, isAmong⟩

/-- Looking at all that is left draws on the tokens. -/
theorem drawsOn_remaining : DrawsOn tokens (fun _ => True) remaining :=
  fun _ isAmong => ⟨trivial, isAmong⟩

/-- The place that has been reached is a place of the tokens. -/
theorem drawsOn_place : DrawsOn tokens (Token.IsPlace tokens) place := by
  rintro ⟨_ | ⟨token, rest⟩, ending, events⟩ isAmong
  · exact ⟨.inl isAmong.ending, isAmong⟩
  · exact ⟨.inr ⟨token, isAmong.rest List.mem_cons_self, rfl⟩, isAmong⟩

/-- A nesting level is refused at a place of the tokens. -/
theorem drawsOn_refuseDepth (condition : α → Prop) :
    DrawsOn tokens condition refuseDepth :=
  drawsOn_place.bind fun _ isPlace => .throwTooDeep isPlace

/-- Comparing the kind of the next token draws on the tokens. -/
theorem drawsOn_nextIs (kind : TokenKind) :
    DrawsOn tokens (fun _ => True) (nextIs kind) := by
  refine drawsOn_peek?.bind fun next _ => ?_
  cases next with
  | none =>
      exact .pure trivial
  | some token =>
      exact .pure trivial

/-- Comparing the kind of the token behind it draws on the tokens. -/
theorem drawsOn_secondIs (kind : TokenKind) :
    DrawsOn tokens (fun _ => True) (secondIs kind) := by
  refine drawsOn_peekSecond?.bind fun second _ => ?_
  cases second with
  | none =>
      exact .pure trivial
  | some token =>
      exact .pure trivial

/-- Accepting a token draws on the tokens. -/
theorem drawsOn_accept (kind : TokenKind) :
    DrawsOn tokens (fun _ => True) (accept kind) := by
  refine (drawsOn_nextIs kind).bind fun isNext _ => ?_
  cases isNext with
  | true =>
      exact drawsOn_advance.bind fun _ _ => .pure trivial
  | false =>
      exact .pure trivial

/-- What was found in place of an expected token is a token. -/
theorem drawsOn_expect
    (kind : TokenKind)
    {fault : SyntaxFault}
    (isPlain : fault.IsPlain) :
    DrawsOn tokens (fun token => token ∈ tokens ∧ token.kind = kind)
      (expect kind fault) := by
  refine drawsOn_peek?.bind fun next among => ?_
  cases next with
  | none =>
      exact drawsOn_get.bind fun state isAmong =>
        .throwPlain isPlain (.inl isAmong.ending)
  | some token =>
      have member : token ∈ tokens := among token rfl
      by_cases isExpected : (token.kind == kind) = true
      · simp only [if_pos isExpected]
        exact drawsOn_advance.bind fun _ _ =>
          .pure ⟨member, beq_iff_eq.1 isExpected⟩
      · simp only [if_neg isExpected]
        by_cases isEnd : (token.kind == .endOfInput) = true
        · rw [if_pos isEnd]
          exact .throwPlain isPlain (.inr ⟨token, member, rfl⟩)
        · rw [if_neg isEnd]
          exact .throw (.found isPlain member (by simpa using isEnd))
            (isPlain.message_ne (by trivial))

/-- Accepting an operator draws on the tokens. -/
theorem drawsOn_acceptOperator (level : OperatorLevel) :
    DrawsOn tokens (fun _ => True) (acceptOperator level) := by
  refine drawsOn_peek?.bind fun next _ => ?_
  cases next with
  | none =>
      exact .pure trivial
  | some token =>
      dsimp only
      split
      · exact drawsOn_advance.bind fun _ _ => .pure trivial
      · exact .pure trivial

end Parse

/-- The expression that was read is made of the tokens. -/
def SizedExpression.IsMadeOf
    (tokens : List Token)
    (sized : SizedExpression) :
    Prop :=
  sized.expression.IsMadeOf tokens

namespace Parse

/-- An expression made of tokens stays so at any height. -/
theorem drawsOn_sized
    {expression : Expression}
    (isMadeOf : expression.IsMadeOf tokens)
    (height : Nat) :
    DrawsOn tokens (SizedExpression.IsMadeOf tokens)
      (sized expression height) := by
  unfold sized
  by_cases isTooHigh : nestingLimit < height
  · rw [if_pos isTooHigh]
    exact .throwTooDeep isMadeOf.isPlace
  · rw [if_neg isTooHigh]
    exact .pure isMadeOf

/-- A leaf made of a token stays so. -/
theorem drawsOn_leaf
    {expression : Expression}
    (isMadeOf : expression.IsMadeOf tokens) :
    DrawsOn tokens (SizedExpression.IsMadeOf tokens) (leaf expression) :=
  drawsOn_advance.bind fun _ _ => drawsOn_sized isMadeOf 1

section Expressions

variable {operand inside : Parse SizedExpression}

/-- A chain behind its first operand is made of tokens if its operands are. -/
theorem drawsOn_chainFrom
    (drawsOn : DrawsOn tokens (SizedExpression.IsMadeOf tokens) operand)
    (level : OperatorLevel)
    (rounds : List Token)
    {left : SizedExpression}
    (isMadeOf : left.IsMadeOf tokens) :
    DrawsOn tokens (SizedExpression.IsMadeOf tokens)
      (chainFrom level operand rounds left) := by
  induction rounds generalizing left with
  | nil =>
      exact .pure isMadeOf
  | cons round rounds hypothesis =>
      refine (drawsOn_acceptOperator level).bind fun accepted _ => ?_
      cases accepted with
      | none =>
          exact .pure isMadeOf
      | some operator =>
          refine drawsOn.bind fun right rightIsMadeOf => ?_
          refine (drawsOn_sized (isMadeOf.binary rightIsMadeOf operator)
            _).bind fun joined joinedIsMadeOf => ?_
          exact hypothesis joinedIsMadeOf

/-- A chain of a level is made of tokens if its operands are. -/
theorem DrawsOn.chain
    (drawsOn : DrawsOn tokens (SizedExpression.IsMadeOf tokens) operand)
    (level : OperatorLevel) :
    DrawsOn tokens (SizedExpression.IsMadeOf tokens) (chain level operand) := by
  refine drawsOn.bind fun first isMadeOf => ?_
  refine drawsOn_remaining.bind fun rounds _ => ?_
  exact drawsOn_chainFrom drawsOn level rounds isMadeOf

/-- An integer is noted, and then it is read or nothing goes on behind it. -/
theorem drawsOn_integer
    {token : Token}
    (member : token ∈ tokens)
    (isInteger : token.kind = .integer) :
    DrawsOn tokens (SizedExpression.IsMadeOf tokens) (do
      record (.primary token.position .integer)
      match Number.readInteger token.lexeme with
      | some number => leaf (.literal token.position (.int number))
      | none =>
          throw (SyntaxFault.integerOutOfRange.located token.position)) := by
  cases read : Number.readInteger token.lexeme with
  | some number =>
      refine (drawsOn_record ?_).bind fun _ _ => ?_
      · rintro position ⟨⟩
        exact ⟨token, member, isInteger, rfl, by rw [read]; rfl⟩
      · exact drawsOn_leaf (.literal member (isInteger ▸ nofun) _)
  | none =>
      intro state isAmong
      exact .atInteger member isInteger read isAmong

/-- A string is always an expression, so no fault names it as unexpected. -/
theorem DrawsOn.primary
    (drawsOn : DrawsOn tokens (SizedExpression.IsMadeOf tokens) inside) :
    DrawsOn tokens (SizedExpression.IsMadeOf tokens) (primary inside) := by
  refine drawsOn_peek?.bind fun next among => ?_
  cases next with
  | none =>
      exact drawsOn_get.bind fun state isAmong =>
        .throwPlain trivial (.inl isAmong.ending)
  | some token =>
      have member : token ∈ tokens := among token rfl
      have isPlace : Token.IsPlace tokens token.position :=
        .inr ⟨token, member, rfl⟩
      have ofLiteral
          {kind : TokenKind}
          (isKind : token.kind = kind)
          (notEnd : kind ≠ .endOfInput)
          (value : Value) :
          DrawsOn tokens (SizedExpression.IsMadeOf tokens)
            (leaf (.literal token.position value)) :=
        drawsOn_leaf (.literal member (isKind ▸ notEnd) value)
      by_cases isInteger : token.kind = .integer
      · simp only [isInteger]
        exact drawsOn_integer member isInteger
      · have noInteger
            (position : Position)
            (noted :
              ParseEvent.primary token.position token.kind =
                .primary position .integer) :
            Token.HasInteger tokens position :=
          absurd (ParseEvent.primary.inj noted).2 isInteger
        refine (drawsOn_record noInteger).bind fun _ _ => ?_
        split
        · contradiction
        · next isFloat =>
            split
            · exact ofLiteral isFloat nofun _
            · next unreadable =>
                have other :
                    SyntaxFault.malformedFloat.message ≠
                      SyntaxFault.integerOutOfRange.message := by
                  decide
                exact .throw (.float member isFloat unreadable) other
        · next isString =>
            exact ofLiteral isString nofun _
        · next isTrue =>
            exact ofLiteral isTrue nofun _
        · next isFalse =>
            exact ofLiteral isFalse nofun _
        · next isNil =>
            exact ofLiteral isNil nofun _
        · next isIdentifier =>
            exact drawsOn_leaf (.reference member isIdentifier)
        · next opens =>
            have notEnd : token.kind ≠ .endOfInput := by
              rw [opens]
              decide
            refine drawsOn_advance.bind fun _ _ => ?_
            refine drawsOn.bind fun inner isMadeOf => ?_
            refine (drawsOn_expect _ (by trivial)).bind fun _ _ => ?_
            exact drawsOn_sized (.group member notEnd isMadeOf) _
        · exact .throwPlain trivial isPlace
        · next notString _ _ _ _ _ _ =>
            exact .throw (.unexpected member notString)
              (SyntaxFault.unexpectedToken_message_ne (by trivial) _)

/-- The end token is no unary operator. -/
theorem kind_ne_endOfInput_of_unaryOperator?
    {kind : TokenKind}
    {operator : UnaryOperator}
    (isOperator : unaryOperator? kind = some operator) :
    kind ≠ .endOfInput := by
  rintro rfl
  cases isOperator

/-- A unary expression that is read is made of tokens if its operand is. -/
theorem DrawsOn.unary
    (operandDrawsOn : DrawsOn tokens (SizedExpression.IsMadeOf tokens) operand)
    (insideDrawsOn : DrawsOn tokens (SizedExpression.IsMadeOf tokens) inside) :
    DrawsOn tokens (SizedExpression.IsMadeOf tokens) (unary operand inside) := by
  refine drawsOn_peek?.bind fun next among => ?_
  cases next with
  | none =>
      exact insideDrawsOn.primary
  | some token =>
      dsimp only
      split
      · exact insideDrawsOn.primary
      · next operator isOperator =>
          have notEnd := kind_ne_endOfInput_of_unaryOperator? isOperator
          refine drawsOn_advance.bind fun _ _ => ?_
          refine operandDrawsOn.bind fun inner isMadeOf => ?_
          exact drawsOn_sized
            (.unary (among token rfl) notEnd isMadeOf operator) _

/-- An expression of all levels is made of tokens if its operands are. -/
theorem DrawsOn.overAllLevels
    (drawsOn : DrawsOn tokens (SizedExpression.IsMadeOf tokens) operand) :
    DrawsOn tokens (SizedExpression.IsMadeOf tokens) (overAllLevels operand) :=
  ((((((drawsOn.chain _).chain _).chain _).chain _).chain _).chain _)

end Expressions

end Parse

/-- The parsers one level further in draw on the tokens. -/
structure NestedParsers.DrawOn
    (tokens : List Token)
    (nested : NestedParsers) : Prop where
  expression :
    Parse.DrawsOn tokens (SizedExpression.IsMadeOf tokens) nested.expression
  operand :
    Parse.DrawsOn tokens (SizedExpression.IsMadeOf tokens) nested.operand
  body :
    Parse.DrawsOn tokens
      (fun body => ∀ statement ∈ body, statement.IsMadeOf tokens) nested.body
  branch :
    Parse.DrawsOn tokens (Statement.IsMadeOf tokens) nested.branch

namespace NestedParsers.DrawOn

open Parse

variable {nested : NestedParsers}

/-- A block that is read is made of tokens. -/
theorem block (drawOn : nested.DrawOn tokens) :
    DrawsOn tokens (fun body => ∀ statement ∈ body, statement.IsMadeOf tokens)
      (block nested) := by
  refine (drawsOn_expect _ (by trivial)).bind fun _ _ => ?_
  refine drawOn.body.bind fun body isMadeOf => ?_
  refine (drawsOn_expect _ (by trivial)).bind fun _ _ => ?_
  exact .pure isMadeOf

/-- A `let` statement that is read is made of tokens. -/
theorem bindStatement (drawOn : nested.DrawOn tokens) :
    DrawsOn tokens (Statement.IsMadeOf tokens) (bindStatement nested) := by
  refine drawsOn_place.bind fun position _ => ?_
  refine drawsOn_advance.bind fun _ _ => ?_
  refine (drawsOn_expect _ (by trivial)).bind fun name isName => ?_
  refine (drawsOn_expect _ (by trivial)).bind fun _ _ => ?_
  refine drawOn.expression.bind fun value isMadeOf => ?_
  refine .pure (.of_isSimple rfl ?_ ⟨name, isName.1, isName.2, rfl⟩)
  exact List.forall_mem_singleton.2 isMadeOf

/-- An assignment that is read is made of tokens, its target among them. -/
theorem assignStatement
    (drawOn : nested.DrawOn tokens)
    {target : Token}
    (member : target ∈ tokens)
    (isIdentifier : target.kind = .identifier) :
    DrawsOn tokens (Statement.IsMadeOf tokens)
      (assignStatement nested target) := by
  refine drawsOn_advance.bind fun _ _ => ?_
  refine drawsOn_advance.bind fun _ _ => ?_
  refine drawOn.expression.bind fun value isMadeOf => ?_
  refine .pure (.of_isSimple rfl ?_ ⟨target, member, isIdentifier, rfl, rfl⟩)
  exact List.forall_mem_singleton.2 isMadeOf

/-- Arguments that are read behind others are made of tokens if those are. -/
theorem argumentsFrom
    (drawOn : nested.DrawOn tokens)
    (rounds : List Token)
    {found : List Expression}
    (isMadeOf : ∀ expression ∈ found, expression.IsMadeOf tokens) :
    DrawsOn tokens
      (fun arguments => ∀ expression ∈ arguments, expression.IsMadeOf tokens)
      (argumentsFrom nested rounds found) := by
  induction rounds generalizing found with
  | nil =>
      exact .pure fun expression member =>
        isMadeOf expression (List.mem_reverse.1 member)
  | cons round rounds hypothesis =>
      refine (drawsOn_accept .comma).bind fun accepted _ => ?_
      cases accepted with
      | true =>
          refine drawOn.expression.bind fun argument argumentIsMadeOf => ?_
          exact hypothesis (List.forall_mem_cons.2 ⟨argumentIsMadeOf, isMadeOf⟩)
      | false =>
          exact .pure fun expression member =>
            isMadeOf expression (List.mem_reverse.1 member)

/-- A `print` statement that is read is made of tokens. -/
theorem printStatement (drawOn : nested.DrawOn tokens) :
    DrawsOn tokens (Statement.IsMadeOf tokens) (printStatement nested) := by
  refine drawsOn_place.bind fun position _ => ?_
  refine drawsOn_advance.bind fun _ _ => ?_
  refine drawOn.expression.bind fun first isMadeOf => ?_
  refine drawsOn_remaining.bind fun rounds _ => ?_
  refine (drawOn.argumentsFrom rounds
    (List.forall_mem_singleton.2 isMadeOf)).bind fun arguments areMadeOf => ?_
  exact .pure (.of_isSimple rfl areMadeOf trivial)

/-- What is read behind an `else` is made of tokens. -/
theorem elseBody (drawOn : nested.DrawOn tokens) :
    DrawsOn tokens
      (fun otherwise =>
        ∀ body ∈ otherwise, ∀ statement ∈ body, statement.IsMadeOf tokens)
      (elseBody nested) := by
  refine (drawsOn_accept _).bind fun hasElse _ => ?_
  cases hasElse with
  | false =>
      exact .pure nofun
  | true =>
      refine (drawsOn_nextIs _).bind fun isBranch _ => ?_
      cases isBranch with
      | true =>
          refine drawOn.branch.bind fun branch isMadeOf => .pure ?_
          rintro body ⟨⟩
          exact List.forall_mem_singleton.2 isMadeOf
      | false =>
          refine drawOn.block.bind fun body isMadeOf => .pure ?_
          rintro _ ⟨⟩
          exact isMadeOf

/-- A conditional statement that is read is made of tokens. -/
theorem branchStatement (drawOn : nested.DrawOn tokens) :
    DrawsOn tokens (Statement.IsMadeOf tokens) (branchStatement nested) := by
  refine drawsOn_place.bind fun position _ => ?_
  refine drawsOn_advance.bind fun _ _ => ?_
  refine drawOn.expression.bind fun condition isMadeOf => ?_
  refine drawOn.block.bind fun thenBody thenIsMadeOf => ?_
  refine drawOn.elseBody.bind fun otherwise elseIsMadeOf => ?_
  exact .pure (.branch isMadeOf thenIsMadeOf elseIsMadeOf position)

/-- A loop that is read is made of tokens. -/
theorem loopStatement (drawOn : nested.DrawOn tokens) :
    DrawsOn tokens (Statement.IsMadeOf tokens) (loopStatement nested) := by
  refine drawsOn_place.bind fun position _ => ?_
  refine drawsOn_advance.bind fun _ _ => ?_
  refine drawOn.expression.bind fun condition isMadeOf => ?_
  refine drawOn.block.bind fun body bodyIsMadeOf => ?_
  exact .pure (.loop isMadeOf bodyIsMadeOf position)

/-- A statement that is an expression is made of tokens. -/
theorem evaluateStatement (drawOn : nested.DrawOn tokens) :
    DrawsOn tokens (Statement.IsMadeOf tokens) (evaluateStatement nested) := by
  refine drawOn.expression.bind fun value isMadeOf => .pure ?_
  exact .of_isSimple rfl (List.forall_mem_singleton.2 isMadeOf) trivial

/-- A statement of any form is made of tokens. -/
theorem statement (drawOn : nested.DrawOn tokens) :
    DrawsOn tokens (Statement.IsMadeOf tokens) (statement nested) := by
  refine drawsOn_peek?.bind fun next among => ?_
  cases next with
  | none =>
      exact drawOn.evaluateStatement
  | some token =>
      refine (drawsOn_record (by nofun)).bind fun _ _ => ?_
      split
      · exact drawOn.bindStatement
      · exact drawOn.printStatement
      · exact drawOn.branchStatement
      · exact drawOn.loopStatement
      · next isIdentifier =>
          refine (drawsOn_secondIs .assign).bind fun isAssign _ => ?_
          cases isAssign with
          | true =>
              exact drawOn.assignStatement (among token rfl) isIdentifier
          | false =>
              exact drawOn.evaluateStatement
      · exact drawOn.evaluateStatement

/-- Looking for the end of a sequence draws on the tokens. -/
theorem atClosing (closing : Option TokenKind) :
    DrawsOn tokens (fun _ => True) (atClosing closing) := by
  refine drawsOn_peek?.bind fun next _ => ?_
  cases next with
  | none =>
      exact .pure trivial
  | some token =>
      exact .pure trivial

/-- Statements that are read behind others are made of tokens if those are. -/
theorem statementsFrom
    (drawOn : nested.DrawOn tokens)
    (closing : Option TokenKind)
    (rounds : List Token)
    {found : List Statement}
    (isMadeOf : ∀ statement ∈ found, statement.IsMadeOf tokens) :
    DrawsOn tokens (fun body => ∀ statement ∈ body, statement.IsMadeOf tokens)
      (statementsFrom nested closing rounds found) := by
  induction rounds generalizing found with
  | nil =>
      exact .pure fun statement member =>
        isMadeOf statement (List.mem_reverse.1 member)
  | cons round rounds hypothesis =>
      refine drawsOn_skipSemicolons.bind fun _ _ => ?_
      refine (atClosing closing).bind fun isClosed _ => ?_
      cases isClosed with
      | true =>
          exact .pure fun statement member =>
            isMadeOf statement (List.mem_reverse.1 member)
      | false =>
          refine drawOn.statement.bind fun next nextIsMadeOf => ?_
          exact hypothesis (List.forall_mem_cons.2 ⟨nextIsMadeOf, isMadeOf⟩)

/-- A sequence of statements that is read is made of tokens. -/
theorem statements
    (drawOn : nested.DrawOn tokens)
    (closing : Option TokenKind) :
    DrawsOn tokens (fun body => ∀ statement ∈ body, statement.IsMadeOf tokens)
      (statements nested closing) := by
  refine drawsOn_remaining.bind fun rounds _ => ?_
  exact drawOn.statementsFrom closing rounds nofun

/-- The parsers that refuse every call draw on the tokens. -/
theorem refusing : NestedParsers.refusing.DrawOn tokens where
  expression := drawsOn_refuseDepth _
  operand := drawsOn_refuseDepth _
  body := drawsOn_refuseDepth _
  branch := drawsOn_refuseDepth _

/-- Parsers around those that draw on the tokens do so too. -/
theorem around (drawOn : nested.DrawOn tokens) :
    nested.around.DrawOn tokens where
  expression := (drawOn.operand.unary drawOn.expression).overAllLevels
  operand := drawOn.operand.unary drawOn.expression
  body := drawOn.statements (some .rightBrace)
  branch := drawOn.branchStatement

/-- The parsers of any number of nesting levels draw on the tokens. -/
theorem within (tokens : List Token) (levels : Nat) :
    (NestedParsers.within levels).DrawOn tokens := by
  induction levels with
  | zero =>
      exact refusing
  | succ levels hypothesis =>
      exact hypothesis.around

end NestedParsers.DrawOn

namespace Program

/-- A program is made of its tokens, and a fault is one that they can have. -/
theorem ofTokens_drawsOn (tokens : List Token) :
    match ofTokens tokens with
    | .ok program =>
        ∀ statement ∈ program.statements, statement.IsMadeOf tokens
    | .error fault =>
        ∃ final : ParseState,
          final.StopsWith tokens fault ∧
            (parse tokens).events = final.events := by
  have read :=
    (NestedParsers.DrawOn.within tokens nestingLimit).statements none _
      (ParseState.isAmong_ofTokens tokens)
  simp only [ofTokens, parse]
  cases reading : Parse.statements (NestedParsers.within nestingLimit) none
      (ParseState.ofTokens tokens) with
  | error fault final =>
      rw [reading] at read
      exact ⟨final, read, rfl⟩
  | ok statements final =>
      rw [reading] at read
      exact read.1

/-- How the parser stops, with the trace that it leaves. -/
theorem exists_stopsWith_of_ofTokens
    {fault : Diagnostic}
    (refused : ofTokens tokens = .error fault) :
    ∃ final : ParseState,
      final.StopsWith tokens fault ∧ (parse tokens).events = final.events := by
  have read := ofTokens_drawsOn tokens
  rw [refused] at read
  exact read

/-- What the parser says against tokens is about them. -/
theorem isSyntaxFault_of_ofTokens
    {fault : Diagnostic}
    (refused : ofTokens tokens = .error fault) :
    IsSyntaxFault tokens fault := by
  obtain ⟨final, stops, -⟩ := exists_stopsWith_of_ofTokens refused
  exact stops.isSyntaxFault

variable {program : Program}

/-- The expressions of a program are made of the tokens it is read from. -/
theorem isMadeOf_of_mem_expressions
    (parsed : ofTokens tokens = .ok program) :
    ∀ expression ∈ program.expressions, expression.IsMadeOf tokens := by
  have read := ofTokens_drawsOn tokens
  rw [parsed] at read
  exact Statement.forall_mem_blockExpressions read

/-- So are the names that it gives values. -/
theorem targetIsMadeOf_of_mem_simpleStatements
    (parsed : ofTokens tokens = .ok program) :
    ∀ statement ∈ program.simpleStatements,
      statement.TargetIsMadeOf tokens := by
  have read := ofTokens_drawsOn tokens
  rw [parsed] at read
  exact Statement.forall_mem_blockSimpleStatements read

end Program

end OwlScript
