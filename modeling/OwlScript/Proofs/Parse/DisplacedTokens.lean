import OwlScript.Proofs.Parse.Reading
import OwlScript.Proofs.Program.Displacement

namespace OwlScript

/-!
# Parsing displaced tokens

A parser looks at the kinds and the lexemes of tokens.  Their positions go into
what it makes, into its events and into its faults, but nothing is decided by
them.  So a parser on displaced tokens does what it does on the tokens, only
displaced.  This is said once for every kind of step, and then follows for each
parser along its steps.
-/

/-- The event at a displaced position, if it has any. -/
def ParseEvent.moved (move : Position → Position) : ParseEvent → ParseEvent
  | .statement position lexeme => .statement (move position) lexeme
  | .primary position kind => .primary (move position) kind
  | .parsed statements => .parsed statements

/-- The state with every position displaced. -/
def ParseState.moved
    (move : Position → Position)
    (state : ParseState) :
    ParseState where
  rest := state.rest.map (Token.moved move)
  ending := move state.ending
  events := state.events.map (ParseEvent.moved move)

/-- The expression with every position displaced, at the same height. -/
def SizedExpression.moved
    (move : Position → Position)
    (sized : SizedExpression) :
    SizedExpression :=
  ⟨sized.expression.moved move, sized.height⟩

/-- A moved token is of the same kind. -/
@[simp]
theorem Token.kind_moved (move : Position → Position) (token : Token) :
    (token.moved move).kind = token.kind :=
  rfl

/-- A moved token is spelled as before. -/
@[simp]
theorem Token.lexeme_moved (move : Position → Position) (token : Token) :
    (token.moved move).lexeme = token.lexeme :=
  rfl

/-- A moved token stands where its position was moved to. -/
@[simp]
theorem Token.position_moved (move : Position → Position) (token : Token) :
    (token.moved move).position = move token.position :=
  rfl

/-- Skipping tokens of a kind does not look at their positions. -/
theorem Token.dropWhile_kind_moved
    (move : Position → Position)
    (kind : TokenKind)
    (tokens : List Token) :
    (tokens.map (Token.moved move)).dropWhile (·.kind == kind) =
      (tokens.dropWhile (·.kind == kind)).map (Token.moved move) :=
  List.dropWhile_map ..

/-- A block is moved statement by statement. -/
theorem Statement.blockMoved_eq_map
    (move : Position → Position)
    (block : List Statement) :
    blockMoved move block = block.map (moved move) := by
  induction block with
  | nil =>
      rfl
  | cons statement rest hypothesis =>
      rw [blockMoved, hypothesis, List.map_cons]

namespace Parse

variable {α β γ δ : Type}
variable (move : Position → Position)

/-- What comes of a parser, displaced. -/
def movedResult
    (change : α → β) :
    EStateM.Result Diagnostic ParseState α →
      EStateM.Result Diagnostic ParseState β
  | .ok value final => .ok (change value) (final.moved move)
  | .error fault final => .error (fault.moved move) (final.moved move)

/--
On displaced tokens the other parser does what the parser does on the tokens.
The value that it reads is changed as the given function says.
-/
def Displaces
    (change : α → β)
    (parser : Parse α)
    (other : Parse β) :
    Prop :=
  ∀ state : ParseState,
    other (state.moved move) = movedResult move change (parser state)

namespace Displaces

variable {move}

/-- A value that is given at once is moved. -/
theorem pure (change : α → β) (value : α) :
    Displaces move change (Pure.pure value) (Pure.pure (change value)) :=
  fun _ => rfl

/-- A fault that is thrown at once is moved. -/
theorem throw (change : α → β) (fault : Diagnostic) :
    Displaces move change (MonadExcept.throw fault)
      (MonadExcept.throw (fault.moved move)) :=
  fun _ => rfl

/-- Steps that displace follow each other. -/
theorem bind
    {change : α → β}
    {nextChange : γ → δ}
    {parser : Parse α}
    {other : Parse β}
    {next : α → Parse γ}
    {otherNext : β → Parse δ}
    (first : Displaces move change parser other)
    (second :
      ∀ value, Displaces move nextChange (next value)
        (otherNext (change value))) :
    Displaces move nextChange (parser >>= next) (other >>= otherNext) := by
  intro state
  rw [bind_apply, bind_apply, first state]
  cases parser state with
  | error fault final =>
      rfl
  | ok value final =>
      exact second value final

/-- Changes of the state that go together with displacing it. -/
theorem ofModify
    {change otherChange : ParseState → ParseState}
    (commutes :
      ∀ state : ParseState,
        otherChange (state.moved move) = (change state).moved move) :
    Displaces move id (modify change : Parse Unit) (modify otherChange) :=
  fun state => congrArg (EStateM.Result.ok ()) (commutes state)

end Displaces

/-- The parser's own state is moved. -/
theorem displaces_get :
    Displaces move (ParseState.moved move) (get : Parse ParseState) get :=
  fun _ => rfl

/-- Taking a token does not depend on where the tokens stand. -/
theorem displaces_advance : Displaces move id advance advance :=
  .ofModify fun state => by
    simp [ParseState.moved]

/-- An event is recorded at the place it was moved to. -/
theorem displaces_record (event : ParseEvent) :
    Displaces move id (record event) (record (event.moved move)) :=
  .ofModify fun state => by
    simp [ParseState.moved]

/-- Skipping semicolons does not depend on where the tokens stand. -/
theorem displaces_skipSemicolons :
    Displaces move id skipSemicolons skipSemicolons :=
  .ofModify fun state => by
    simp [ParseState.moved, Token.dropWhile_kind_moved]

/-- The next token is the one that was next, moved. -/
theorem displaces_peek? :
    Displaces move (Option.map (Token.moved move)) peek? peek? := by
  intro state
  exact congrArg (fun token => EStateM.Result.ok token (state.moved move))
    (List.head?_map ..)

/-- So is the token behind it. -/
theorem displaces_peekSecond? :
    Displaces move (Option.map (Token.moved move)) peekSecond? peekSecond? := by
  intro state
  exact congrArg (fun token => EStateM.Result.ok token (state.moved move))
    (List.getElem?_map ..)

/-- So are the tokens that are left. -/
theorem displaces_remaining :
    Displaces move (List.map (Token.moved move)) remaining remaining :=
  fun _ => rfl

/-- The place that has been reached is moved. -/
theorem displaces_place : Displaces move move place place := by
  rintro ⟨_ | ⟨token, rest⟩, ending, events⟩
  · rfl
  · rfl

/-- Refusing a nesting level is displaced with the tokens. -/
theorem displaces_refuseDepth (change : α → β) :
    Displaces move change refuseDepth refuseDepth :=
  (displaces_place move).bind fun position =>
    .throw change (tooDeepAt position)

/-- Whether the next token is of a kind does not depend on its place. -/
theorem displaces_nextIs (kind : TokenKind) :
    Displaces move id (nextIs kind) (nextIs kind) := by
  refine (displaces_peek? move).bind ?_
  intro next
  cases next with
  | none =>
      exact .pure id false
  | some token =>
      exact .pure id (token.kind == kind)

/-- Neither does it for the token behind that. -/
theorem displaces_secondIs (kind : TokenKind) :
    Displaces move id (secondIs kind) (secondIs kind) := by
  refine (displaces_peekSecond? move).bind ?_
  intro second
  cases second with
  | none =>
      exact .pure id false
  | some token =>
      exact .pure id (token.kind == kind)

/-- Accepting a token does not depend on where it stands. -/
theorem displaces_accept (kind : TokenKind) :
    Displaces move id (accept kind) (accept kind) := by
  refine (displaces_nextIs move kind).bind ?_
  intro isNext
  cases isNext with
  | true =>
      exact (displaces_advance move).bind fun _ => .pure id true
  | false =>
      exact .pure id false

/-- A token that is asked for is given moved, or its fault is. -/
theorem displaces_expect (kind : TokenKind) (fault : SyntaxFault) :
    Displaces move (Token.moved move) (expect kind fault)
      (expect kind fault) := by
  refine (displaces_peek? move).bind ?_
  intro next
  cases next with
  | none =>
      exact (displaces_get move).bind fun state =>
        .throw _ (fault.located state.ending)
  | some token =>
      obtain ⟨found, lexeme, position⟩ := token
      simp only [Option.map_some, Token.moved]
      by_cases isExpected : (found == kind) = true
      · rw [if_pos isExpected, if_pos isExpected]
        exact (displaces_advance move).bind fun _ =>
          .pure (Token.moved move) ⟨found, lexeme, position⟩
      · rw [if_neg isExpected, if_neg isExpected]
        by_cases isEnd : (found == .endOfInput) = true
        · rw [if_pos isEnd, if_pos isEnd]
          exact .throw _ (fault.located position)
        · rw [if_neg isEnd, if_neg isEnd]
          exact .throw _
            ((fault.located position).withNote ("found `" ++ lexeme ++ "`"))

/-- Accepting an operator does not depend on where it stands. -/
theorem displaces_acceptOperator (level : OperatorLevel) :
    Displaces move id (acceptOperator level) (acceptOperator level) := by
  refine (displaces_peek? move).bind ?_
  intro next
  cases next with
  | none =>
      exact .pure id none
  | some token =>
      simp only [Option.map_some, Token.kind_moved]
      split
      · exact (displaces_advance move).bind fun _ => .pure id _
      · exact .pure id none

/-- Whether an expression is too high does not depend on where it stands. -/
theorem displaces_sized (expression : Expression) (height : Nat) :
    Displaces move (SizedExpression.moved move) (sized expression height)
      (sized (expression.moved move) height) := by
  unfold sized
  by_cases isTooHigh : nestingLimit < height
  · rw [if_pos isTooHigh, if_pos isTooHigh, Expression.position_moved]
    exact .throw _ (tooDeepAt expression.position)
  · rw [if_neg isTooHigh, if_neg isTooHigh]
    exact .pure (SizedExpression.moved move) ⟨expression, height⟩

/-- A leaf is moved with its token. -/
theorem displaces_leaf (expression : Expression) :
    Displaces move (SizedExpression.moved move) (leaf expression)
      (leaf (expression.moved move)) :=
  (displaces_advance move).bind fun _ => displaces_sized move expression 1

section Expressions

variable {move}
variable {operand inside : Parse SizedExpression}

/-- A chain behind its first operand is moved if its operands are. -/
theorem displaces_chainFrom
    (displaces :
      Displaces move (SizedExpression.moved move) operand operand)
    (level : OperatorLevel)
    (rounds : List Token)
    (left : SizedExpression) :
    Displaces move (SizedExpression.moved move)
      (chainFrom level operand rounds left)
      (chainFrom level operand (rounds.map (Token.moved move))
        (left.moved move)) := by
  induction rounds generalizing left with
  | nil =>
      exact .pure _ left
  | cons round rounds hypothesis =>
      refine (displaces_acceptOperator move level).bind ?_
      intro accepted
      cases accepted with
      | none =>
          exact .pure _ left
      | some operator =>
          refine displaces.bind fun right => ?_
          refine (displaces_sized move _ _).bind fun joined => ?_
          exact hypothesis joined

/-- A chain of a level is moved if its operands are. -/
theorem Displaces.chain
    (displaces :
      Displaces move (SizedExpression.moved move) operand operand)
    (level : OperatorLevel) :
    Displaces move (SizedExpression.moved move) (chain level operand)
      (chain level operand) := by
  refine displaces.bind fun first => ?_
  refine (displaces_remaining move).bind fun rounds => ?_
  exact displaces_chainFrom displaces level rounds first

/-- A literal, a variable or a group is recognised by its first token. -/
theorem Displaces.primary
    (displaces :
      Displaces move (SizedExpression.moved move) inside inside) :
    Displaces move (SizedExpression.moved move) (primary inside)
      (primary inside) := by
  refine (displaces_peek? move).bind ?_
  intro next
  cases next with
  | none =>
      exact (displaces_get move).bind fun state =>
        .throw _ (SyntaxFault.expectedExpression.located state.ending)
  | some token =>
      obtain ⟨kind, lexeme, position⟩ := token
      refine (displaces_record move (.primary position kind)).bind fun _ => ?_
      simp only [Token.moved]
      split
      · split
        · exact displaces_leaf move _
        · exact .throw _ (SyntaxFault.integerOutOfRange.located position)
      · split
        · exact displaces_leaf move _
        · exact .throw _ (SyntaxFault.malformedFloat.located position)
      · exact displaces_leaf move _
      · exact displaces_leaf move _
      · exact displaces_leaf move _
      · exact displaces_leaf move _
      · exact displaces_leaf move _
      · refine (displaces_advance move).bind fun _ => ?_
        refine displaces.bind fun inner => ?_
        refine (displaces_expect move _ _).bind fun _ => ?_
        exact displaces_sized move (.group position inner.expression) _
      · exact .throw _ (SyntaxFault.unexpectedEnd.located position)
      · exact .throw _ ((SyntaxFault.unexpectedToken lexeme).located position)

/-- A unary expression is moved if its operand and what stands inside are. -/
theorem Displaces.unary
    (operandDisplaces :
      Displaces move (SizedExpression.moved move) operand operand)
    (insideDisplaces :
      Displaces move (SizedExpression.moved move) inside inside) :
    Displaces move (SizedExpression.moved move) (unary operand inside)
      (unary operand inside) := by
  refine (displaces_peek? move).bind ?_
  intro next
  cases next with
  | none =>
      exact insideDisplaces.primary
  | some token =>
      simp only [Option.map_some, Token.kind_moved]
      split
      · exact insideDisplaces.primary
      · next operator signed =>
          refine (displaces_advance move).bind fun _ => ?_
          refine operandDisplaces.bind fun inner => ?_
          exact displaces_sized move
            (.unary token.position operator inner.expression) _

/-- An expression of all levels is moved if its operands are. -/
theorem Displaces.overAllLevels
    (displaces :
      Displaces move (SizedExpression.moved move) operand operand) :
    Displaces move (SizedExpression.moved move) (overAllLevels operand)
      (overAllLevels operand) :=
  ((((((displaces.chain _).chain _).chain _).chain _).chain _).chain _)

end Expressions

end Parse

/-- The parsers one level further in do the same on displaced tokens. -/
structure NestedParsers.Displace
    (move : Position → Position)
    (nested : NestedParsers) : Prop where
  expression :
    Parse.Displaces move (SizedExpression.moved move) nested.expression
      nested.expression
  operand :
    Parse.Displaces move (SizedExpression.moved move) nested.operand
      nested.operand
  body :
    Parse.Displaces move (Statement.blockMoved move) nested.body nested.body
  branch :
    Parse.Displaces move (Statement.moved move) nested.branch nested.branch

namespace NestedParsers.Displace

open Parse

variable {move : Position → Position}
variable {nested : NestedParsers}

/-- A block is moved if what is nested in it is. -/
theorem block (displace : nested.Displace move) :
    Displaces move (Statement.blockMoved move) (block nested)
      (block nested) := by
  refine (displaces_expect move _ _).bind fun _ => ?_
  refine displace.body.bind fun body => ?_
  refine (displaces_expect move _ _).bind fun _ => ?_
  exact .pure _ body

/-- A `let` statement is moved if its value is. -/
theorem bindStatement (displace : nested.Displace move) :
    Displaces move (Statement.moved move) (bindStatement nested)
      (bindStatement nested) := by
  refine (displaces_place move).bind fun position => ?_
  refine (displaces_advance move).bind fun _ => ?_
  refine (displaces_expect move _ _).bind fun name => ?_
  refine (displaces_expect move _ _).bind fun _ => ?_
  refine displace.expression.bind fun value => ?_
  exact .pure (Statement.moved move)
    (.bind position name.lexeme value.expression)

/-- An assignment is moved with its target if its value is. -/
theorem assignStatement (displace : nested.Displace move) (target : Token) :
    Displaces move (Statement.moved move) (assignStatement nested target)
      (assignStatement nested (target.moved move)) := by
  refine (displaces_advance move).bind fun _ => ?_
  refine (displaces_advance move).bind fun _ => ?_
  refine displace.expression.bind fun value => ?_
  exact .pure (Statement.moved move)
    (.assign target.position target.lexeme value.expression)

/-- The arguments behind those found are moved if each of them is. -/
theorem argumentsFrom
    (displace : nested.Displace move)
    (rounds : List Token)
    (found : List Expression) :
    Displaces move (List.map (Expression.moved move))
      (argumentsFrom nested rounds found)
      (argumentsFrom nested (rounds.map (Token.moved move))
        (found.map (Expression.moved move))) := by
  have complete
      (found : List Expression) :
      Displaces move (List.map (Expression.moved move))
        (Pure.pure found.reverse)
        (Pure.pure (found.map (Expression.moved move)).reverse) := by
    rw [← List.map_reverse]
    exact .pure _ found.reverse
  induction rounds generalizing found with
  | nil =>
      exact complete found
  | cons round rounds hypothesis =>
      refine (displaces_accept move .comma).bind fun accepted => ?_
      cases accepted with
      | true =>
          refine displace.expression.bind fun argument => ?_
          exact hypothesis (argument.expression :: found)
      | false =>
          exact complete found

/-- A `print` statement is moved if its arguments are. -/
theorem printStatement (displace : nested.Displace move) :
    Displaces move (Statement.moved move) (printStatement nested)
      (printStatement nested) := by
  refine (displaces_place move).bind fun position => ?_
  refine (displaces_advance move).bind fun _ => ?_
  refine displace.expression.bind fun first => ?_
  refine (displaces_remaining move).bind fun rounds => ?_
  refine (displace.argumentsFrom rounds [first.expression]).bind ?_
  intro arguments
  exact .pure (Statement.moved move)
    (.print position arguments)

/-- What stands behind an `else` is moved if what is nested in it is. -/
theorem elseBody (displace : nested.Displace move) :
    Displaces move (Statement.elseMoved move) (elseBody nested)
      (elseBody nested) := by
  refine (displaces_accept move _).bind fun hasElse => ?_
  cases hasElse with
  | false =>
      exact .pure (Statement.elseMoved move) none
  | true =>
      refine (displaces_nextIs move _).bind fun isBranch => ?_
      cases isBranch with
      | true =>
          refine displace.branch.bind fun branch => ?_
          exact .pure (Statement.elseMoved move) (some [branch])
      | false =>
          refine displace.block.bind fun body => ?_
          exact .pure (Statement.elseMoved move) (some body)

/-- A conditional statement is moved if its condition and branches are. -/
theorem branchStatement (displace : nested.Displace move) :
    Displaces move (Statement.moved move) (branchStatement nested)
      (branchStatement nested) := by
  refine (displaces_place move).bind fun position => ?_
  refine (displaces_advance move).bind fun _ => ?_
  refine displace.expression.bind fun condition => ?_
  refine displace.block.bind fun thenBody => ?_
  refine displace.elseBody.bind fun otherwise => ?_
  exact .pure (Statement.moved move)
    (.branch position condition.expression thenBody otherwise)

/-- A loop is moved if its condition and its body are. -/
theorem loopStatement (displace : nested.Displace move) :
    Displaces move (Statement.moved move) (loopStatement nested)
      (loopStatement nested) := by
  refine (displaces_place move).bind fun position => ?_
  refine (displaces_advance move).bind fun _ => ?_
  refine displace.expression.bind fun condition => ?_
  refine displace.block.bind fun body => ?_
  exact .pure (Statement.moved move)
    (.loop position condition.expression body)

/-- A statement that is an expression is moved if the expression is. -/
theorem evaluateStatement (displace : nested.Displace move) :
    Displaces move (Statement.moved move) (evaluateStatement nested)
      (evaluateStatement nested) := by
  refine displace.expression.bind fun value => ?_
  exact .pure (Statement.moved move)
    (.evaluate value.expression)

/-- Which statement is read is decided by the kinds of two tokens. -/
theorem statement (displace : nested.Displace move) :
    Displaces move (Statement.moved move) (statement nested)
      (statement nested) := by
  refine (displaces_peek? move).bind fun next => ?_
  cases next with
  | none =>
      exact displace.evaluateStatement
  | some token =>
      refine (displaces_record move
        (.statement token.position token.lexeme)).bind fun _ => ?_
      simp only [Token.kind_moved]
      split
      · exact displace.bindStatement
      · exact displace.printStatement
      · exact displace.branchStatement
      · exact displace.loopStatement
      · refine (displaces_secondIs move .assign).bind fun isAssign => ?_
        cases isAssign with
        | true =>
            exact displace.assignStatement token
        | false =>
            exact displace.evaluateStatement
      · exact displace.evaluateStatement

/-- Where a sequence is closed does not depend on where its tokens stand. -/
theorem atClosing (closing : Option TokenKind) :
    Displaces move id (atClosing closing) (atClosing closing) := by
  refine (displaces_peek? move).bind fun next => ?_
  cases next with
  | none =>
      exact .pure id true
  | some token =>
      exact .pure id
        (token.kind == .endOfInput || some token.kind == closing)

/-- The statements behind those found are moved if each of them is. -/
theorem statementsFrom
    (displace : nested.Displace move)
    (closing : Option TokenKind)
    (rounds : List Token)
    (found : List Statement) :
    Displaces move (Statement.blockMoved move)
      (statementsFrom nested closing rounds found)
      (statementsFrom nested closing (rounds.map (Token.moved move))
        (Statement.blockMoved move found)) := by
  have complete
      (found : List Statement) :
      Displaces move (Statement.blockMoved move) (Pure.pure found.reverse)
        (Pure.pure (Statement.blockMoved move found).reverse) := by
    rw [Statement.blockMoved_eq_map, ← List.map_reverse,
      ← Statement.blockMoved_eq_map]
    exact .pure _ found.reverse
  induction rounds generalizing found with
  | nil =>
      exact complete found
  | cons round rounds hypothesis =>
      refine (displaces_skipSemicolons move).bind fun _ => ?_
      refine (atClosing closing).bind fun isClosed => ?_
      cases isClosed with
      | true =>
          exact complete found
      | false =>
          refine displace.statement.bind fun next => ?_
          exact hypothesis (next :: found)

/-- A sequence of statements is moved if each of them is. -/
theorem statements
    (displace : nested.Displace move)
    (closing : Option TokenKind) :
    Displaces move (Statement.blockMoved move) (statements nested closing)
      (statements nested closing) := by
  refine (displaces_remaining move).bind fun rounds => ?_
  exact displace.statementsFrom closing rounds []

/-- The parsers that refuse every call are displaced. -/
theorem refusing : NestedParsers.refusing.Displace move where
  expression := displaces_refuseDepth move _
  operand := displaces_refuseDepth move _
  body := displaces_refuseDepth move _
  branch := displaces_refuseDepth move _

/-- One level further out the parsers do the same again. -/
theorem around (displace : nested.Displace move) :
    nested.around.Displace move where
  expression := (displace.operand.unary displace.expression).overAllLevels
  operand := displace.operand.unary displace.expression
  body := displace.statements (some .rightBrace)
  branch := displace.branchStatement

/-- So are the parsers of any number of nesting levels. -/
theorem within (move : Position → Position) (levels : Nat) :
    (NestedParsers.within levels).Displace move := by
  induction levels with
  | zero =>
      exact refusing
  | succ levels hypothesis =>
      exact hypothesis.around

end NestedParsers.Displace

namespace Program

/--
Displaced tokens make the displaced program or the displaced fault.  The
displacement has to keep the first position, which stands for the end where
there is no token at all.
-/
theorem ofTokens_moved
    {move : Position → Position}
    (keepsStart : move .start = .start)
    (tokens : List Token) :
    ofTokens (tokens.map (Token.moved move)) =
      match ofTokens tokens with
      | .ok program => .ok (program.moved move)
      | .error fault => .error (fault.moved move) := by
  have start :
      ParseState.ofTokens (tokens.map (Token.moved move)) =
        (ParseState.ofTokens tokens).moved move := by
    unfold ParseState.ofTokens ParseState.moved
    rw [List.getLast?_map]
    cases tokens.getLast? with
    | none =>
        simp [keepsStart]
    | some token =>
        simp
  have read :=
    (NestedParsers.Displace.within move nestingLimit).statements none
      (ParseState.ofTokens tokens)
  simp only [ofTokens, parse, start, read]
  cases Parse.statements (NestedParsers.within nestingLimit) none
      (ParseState.ofTokens tokens) with
  | error fault final =>
      rfl
  | ok statements final =>
      rfl

end Program

end OwlScript
