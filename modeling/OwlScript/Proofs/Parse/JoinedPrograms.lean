import OwlScript.Proofs.Parse.ProgramCompleteness
import OwlScript.Proofs.Parse.ProgramSoundness
import OwlScript.Proofs.Program.Displacement

namespace OwlScript

/-!
# Programs joined

What is derived from tokens is derived further down from the same tokens
further down.  Statements that are derived from tokens may stand in front of
others with a semicolon between: the semicolon goes on with no expression at
the end of a statement, and with no conditional statement.
-/

namespace Grammar

variable (move : Position → Position)

/-- The phrase with every position displaced. -/
def Phrase.moved : Phrase → Phrase
  | .statement inner => .statement (inner.moved move)
  | .block body => .block (Statement.blockMoved move body)
  | .otherwise elseBody => .otherwise (Statement.elseMoved move elseBody)
  | .sequence inner => .sequence (Statement.blockMoved move inner)

/-- A node that begins with a token begins with it when both are moved. -/
theorem BeginsAt.moved
    {tokens : List Token}
    {position : Position}
    (begins : BeginsAt tokens position) :
    BeginsAt (tokens.map (Token.moved move)) (move position) := by
  cases tokens with
  | nil =>
      cases begins
  | cons first rest =>
      cases begins
      rfl

/-- Tokens that begin with no operator begin with none when they are moved. -/
theorem not_beginsWithOperator_moved
    {tokens : List Token}
    (ends : ¬BeginsWithOperator tokens) :
    ¬BeginsWithOperator (tokens.map (Token.moved move)) := by
  rintro ⟨token, member, isOperator⟩
  cases tokens with
  | nil =>
      cases member
  | cons first rest =>
      cases member
      exact ends ⟨first, rfl, isOperator⟩

/-- A statement that takes all it can does so when its tokens are moved. -/
theorem Maximal.moved
    {statement : Statement}
    {later : List Token}
    (maximal : Maximal statement later) :
    Maximal (statement.moved move) (later.map (Token.moved move)) := by
  intro endsInExpression
  refine not_beginsWithOperator_moved move (maximal ?_)
  cases statement with
  | branch position condition thenBody elseBody =>
      cases endsInExpression
  | loop position condition body =>
      cases endsInExpression
  | _ =>
      trivial

/-- Moved tokens spell the moved expression. -/
theorem Spells.moved
    {tokens : List Token}
    {expression : Expression}
    (spelled : Spells tokens expression) :
    Spells (tokens.map (Token.moved move)) (expression.moved move) := by
  induction spelled with
  | @literal token value stands =>
      exact @Spells.literal (token.moved move) value stands
  | @reference token named =>
      exact @Spells.reference (token.moved move) named
  | @unary sign operator tokens operand signed spelled hypothesis =>
      exact @Spells.unary (sign.moved move) operator _ _ signed hypothesis
  | @binary sign operator leftTokens rightTokens left right leftSpelled begins
      signed rightSpelled leftHypothesis rightHypothesis =>
      rw [List.map_append, List.map_cons]
      refine .binary leftHypothesis ?_ signed rightHypothesis
      simpa only [Expression.position, Expression.position_moved]
        using begins.moved move
  | @group opening closing tokens inner opens spelled closes hypothesis =>
      rw [List.map_cons, List.map_append, List.map_singleton]
      exact @Spells.group (opening.moved move) (closing.moved move) _ _ opens
        hypothesis closes

/-- Moved tokens spell the moved arguments. -/
theorem SpellsArguments.moved
    {tokens : List Token}
    {arguments : List Expression}
    (spelled : SpellsArguments tokens arguments) :
    SpellsArguments (tokens.map (Token.moved move))
      (arguments.map (Expression.moved move)) := by
  induction spelled with
  | none =>
      exact .none
  | more separates spelled rest hypothesis =>
      rw [List.map_cons, List.map_append, List.map_cons]
      exact .more separates (spelled.moved move) hypothesis

/-- A displaced phrase is derived from the displaced tokens. -/
theorem Derives.moved
    {phrase : Phrase}
    {tokens : List Token}
    (derived : Derives Maximal phrase tokens) :
    Derives Maximal (phrase.moved move) (tokens.map (Token.moved move)) := by
  induction derived with
  | @bind keyword name equals tokens value keyed named assigns spelled =>
      exact @Derives.bind _ (keyword.moved move) (name.moved move)
        (equals.moved move) _ _ keyed named assigns (spelled.moved move)
  | @assign name equals tokens value named assigns spelled =>
      exact @Derives.assign _ (name.moved move) (equals.moved move) _ _ named
        assigns (spelled.moved move)
  | @print keyword tokens later argument arguments keyed spelled rest =>
      rw [List.map_cons, List.map_append]
      exact @Derives.print _ (keyword.moved move) _ _ _ _ keyed
        (spelled.moved move) (rest.moved move)
  | @branch keyword conditionTokens thenTokens elseTokens condition thenBody
      elseBody keyed spelled thenDerived elseDerived thenHypothesis
      elseHypothesis =>
      rw [List.map_cons, List.map_append, List.map_append]
      exact @Derives.branch _ (keyword.moved move) _ _ _ _ _ _ keyed
        (spelled.moved move) thenHypothesis elseHypothesis
  | @loop keyword conditionTokens bodyTokens condition body keyed spelled
      derived hypothesis =>
      rw [List.map_cons, List.map_append]
      exact @Derives.loop _ (keyword.moved move) _ _ _ _ keyed
        (spelled.moved move) hypothesis
  | evaluate spelled begins =>
      refine .evaluate (spelled.moved move) ?_
      simpa only [Statement.position, Expression.position_moved]
        using begins.moved move
  | @block opening closing tokens body opens derived closes hypothesis =>
      rw [List.map_cons, List.map_append, List.map_singleton]
      exact @Derives.block _ (opening.moved move) (closing.moved move) _ _
        opens hypothesis closes
  | noElse =>
      exact .noElse
  | @elseBlock keyword tokens body keyed derived hypothesis =>
      exact @Derives.elseBlock _ (keyword.moved move) _ _ keyed hypothesis
  | @elseBranch keyword tokens position condition thenBody elseBody keyed
      derived hypothesis =>
      exact @Derives.elseBranch _ (keyword.moved move) _ _ _ _ _ keyed
        hypothesis
  | empty =>
      exact .empty
  | @semicolon separator tokens statements separates derived hypothesis =>
      exact @Derives.semicolon _ (separator.moved move) _ _ separates
        hypothesis
  | next first allowed rest firstHypothesis restHypothesis =>
      rw [List.map_append]
      exact .next firstHypothesis (allowed.moved move) restHypothesis

/-- Statements are derived behind others that they do not go on with. -/
theorem Derives.append
    {front back : List Statement}
    {tokens later : List Token}
    (derived : Derives Maximal (.sequence front) tokens)
    (behind : Derives Maximal (.sequence back) later)
    (ends : ¬BeginsWithOperator later) :
    Derives Maximal (.sequence (front ++ back)) (tokens ++ later) := by
  generalize isSequence : Phrase.sequence front = phrase at derived
  induction derived generalizing front with
  | empty =>
      cases isSequence
      exact behind
  | semicolon separates derived hypothesis =>
      cases isSequence
      exact .semicolon separates (hypothesis rfl)
  | next first allowed rest firstHypothesis restHypothesis =>
      cases isSequence
      rw [List.append_assoc]
      exact .next first (allowed.append ends) (restHypothesis rfl)
  | _ =>
      cases isSequence

/-- An end token closes a program, whatever stands behind it. -/
theorem closes_of_end
    {ending : Token}
    (isEnd : ending.kind = .endOfInput)
    (later : List Token) :
    Closes none (ending :: later) := by
  intro token member
  cases member
  exact .inl isEnd

end Grammar

namespace Statement

/-- Two blocks in a row nest as deep as the deeper of the two. -/
theorem blockNesting_append (front back : List Statement) :
    blockNesting (front ++ back) =
      max (blockNesting front) (blockNesting back) := by
  induction front with
  | nil =>
      simp [blockNesting]
  | cons statement rest hypothesis =>
      simp [blockNesting, hypothesis, Nat.max_assoc]

end Statement

namespace Program

/-- The program with the statements of both, one after the other. -/
def joined (first second : Program) : Program :=
  ⟨first.statements ++ second.statements⟩

variable {first second : Program}

/-- Two programs that respect the precedence do so one behind the other. -/
theorem RespectsPrecedence.joined
    (firstRespects : first.RespectsPrecedence)
    (secondRespects : second.RespectsPrecedence) :
    (first.joined second).RespectsPrecedence := by
  simp only [RespectsPrecedence, expressions, Program.joined,
    Statement.blockExpressions_append, List.forall_mem_append]
  exact ⟨firstRespects, secondRespects⟩

/-- Two programs within the limits are within them one behind the other. -/
theorem WithinLimits.joined
    (firstWithin : first.WithinLimits)
    (secondWithin : second.WithinLimits) :
    (first.joined second).WithinLimits := by
  simp only [WithinLimits, nesting, expressions, Program.joined,
    Statement.blockNesting_append, Statement.blockExpressions_append,
    List.forall_mem_append]
  exact ⟨Nat.max_le.2 ⟨firstWithin.1, secondWithin.1⟩, firstWithin.2,
    secondWithin.2⟩

/-- Whatever is read from tokens is derived from those in front of the end. -/
theorem exists_derivesSequence
    {tokens : List Token}
    {program : Program}
    (parsed : ofTokens tokens = .ok program) :
    ∃ taken rest, tokens = taken ++ rest ∧
      Parse.DerivesSequence none taken program.statements rest := by
  obtain ⟨final, run, -⟩ := exists_run_of_ofTokens parsed
  obtain ⟨taken, shape, sequence⟩ :=
    Parse.ensures_statements (NestedParsers.within_sound nestingLimit) none
      tokens _ _ _ rfl run
  exact ⟨taken, final.rest, shape, sequence⟩

/-- What tokens in front of an end token, or of none, are parsed as. -/
theorem ofTokens_append_eq_ok_iff
    {body ending : List Token}
    (noEnd : ∀ token ∈ body, token.kind ≠ .endOfInput)
    (closes : Grammar.Closes none ending)
    (program : Program) :
    ofTokens (body ++ ending) = .ok program ↔
      Grammar.Derives Grammar.Maximal (.sequence program.statements) body ∧
        program.RespectsPrecedence ∧ program.WithinLimits := by
  constructor
  · intro parsed
    obtain ⟨taken, rest, shape, sequence⟩ := exists_derivesSequence parsed
    have takenNoEnd := sequence.derived.kind_ne_endOfInput
    have inFront
        {tokens : List Token}
        (noneEnds : ∀ token ∈ tokens, token.kind ≠ .endOfInput)
        {later : List Token}
        (laterCloses : Grammar.Closes none later) :
        (tokens ++ later).takeWhile (fun token => token.kind != .endOfInput) =
          tokens := by
      rw [List.takeWhile_append_of_pos (by simpa using noneEnds),
        laterCloses.takeWhile_eq_nil, List.append_nil]
    have same : body = taken := by
      rw [← inFront noEnd closes, shape, inFront takenNoEnd sequence.closes]
    rw [← same] at sequence
    refine ⟨sequence.derived, sequence.precedence, ?_⟩
    by_cases within : program.WithinLimits
    · exact within
    · obtain ⟨position, refused⟩ :=
        (ofTokens_of_derives sequence.derived sequence.precedence closes).2
          within
      rw [parsed] at refused
      cases refused
  · rintro ⟨derived, precedence, within⟩
    exact (ofTokens_of_derives derived precedence closes).1 within

/-- What tokens in front of an end token are parsed as. -/
theorem ofTokens_eq_ok_iff
    {body : List Token}
    {ending : Token}
    (noEnd : ∀ token ∈ body, token.kind ≠ .endOfInput)
    (isEnd : ending.kind = .endOfInput)
    (program : Program) :
    ofTokens (body ++ [ending]) = .ok program ↔
      Grammar.Derives Grammar.Maximal (.sequence program.statements) body ∧
        program.RespectsPrecedence ∧ program.WithinLimits :=
  ofTokens_append_eq_ok_iff noEnd (Grammar.closes_of_end isEnd []) program

/--
Tokens joined with a semicolon between are parsed if both parts are.  The
program is that of the first part and the displaced one of the second part.
-/
theorem ofTokens_joined
    {firstBody secondBody : List Token}
    {firstEnd secondEnd joinedEnd separator : Token}
    (noEnd : ∀ token ∈ firstBody ++ secondBody, token.kind ≠ .endOfInput)
    (firstIsEnd : firstEnd.kind = .endOfInput)
    (secondIsEnd : secondEnd.kind = .endOfInput)
    (joinedIsEnd : joinedEnd.kind = .endOfInput)
    (separates : separator.kind = .semicolon)
    (firstParsed : ofTokens (firstBody ++ [firstEnd]) = .ok first)
    (secondParsed : ofTokens (secondBody ++ [secondEnd]) = .ok second)
    (move : Position → Position) :
    ofTokens
        (firstBody ++ separator :: secondBody.map (Token.moved move) ++
          [joinedEnd]) =
      .ok (first.joined (second.moved move)) := by
  rw [List.forall_mem_append] at noEnd
  obtain ⟨firstNoEnd, secondNoEnd⟩ := noEnd
  obtain ⟨firstDerived, firstRespects, firstWithin⟩ :=
    (ofTokens_eq_ok_iff firstNoEnd firstIsEnd first).1 firstParsed
  obtain ⟨secondDerived, secondRespects, secondWithin⟩ :=
    (ofTokens_eq_ok_iff secondNoEnd secondIsEnd second).1 secondParsed
  have movedRespects : (second.moved move).RespectsPrecedence := by
    rwa [← respectsPrecedence_unplaced, unplaced_moved,
      respectsPrecedence_unplaced]
  have movedWithin : (second.moved move).WithinLimits := by
    rwa [← withinLimits_unplaced, unplaced_moved, withinLimits_unplaced]
  have behind :
      Grammar.Derives Grammar.Maximal
        (.sequence (second.moved move).statements)
        (separator :: secondBody.map (Token.moved move)) :=
    .semicolon separates (secondDerived.moved move)
  have derived :=
    firstDerived.append behind
      (Grammar.not_beginsWithOperator_of_kind separates rfl)
  refine (ofTokens_eq_ok_iff ?_ joinedIsEnd _).2
    ⟨derived, firstRespects.joined movedRespects,
      firstWithin.joined movedWithin⟩
  exact derived.kind_ne_endOfInput

end Program

end OwlScript
