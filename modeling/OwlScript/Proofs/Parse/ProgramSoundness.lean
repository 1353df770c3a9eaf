import OwlScript.Proofs.Parse.Boundaries
import OwlScript.Proofs.Parse.ExpressionSoundness

namespace OwlScript

/-!
# Every program read is one of the grammar

What the parsers of statements read is derived from the tokens that they took.
This is shown for one storey of nesting over a storey of which it is known,
and then for all storeys from the refusing one on.
-/

namespace Parse

open Grammar Statement

/-- The tokens taken derive the statement read, up to its last expression. -/
structure DerivesStatement
    (taken : List Token)
    (statement : Statement)
    (rest : List Token) :
    Prop where
  derived : Derives Maximal (.statement statement) taken
  precedence :
    ∀ expression ∈ statement.expressions, expression.RespectsPrecedence
  maximal : Maximal statement rest

/-- The tokens taken derive the statements between two braces. -/
structure DerivesBlock
    (taken : List Token)
    (body : List Statement) :
    Prop where
  derived : Derives Maximal (.block body) taken
  precedence :
    ∀ expression ∈ blockExpressions body, expression.RespectsPrecedence

/-- The tokens taken derive what follows the first block of a condition. -/
structure DerivesElse
    (taken : List Token)
    (body : Option (List Statement)) :
    Prop where
  derived : Derives Maximal (.otherwise body) taken
  precedence :
    ∀ expression ∈ elseExpressions body, expression.RespectsPrecedence

/-- The tokens taken derive all statements up to the end or a closing token. -/
structure DerivesSequence
    (closing : Option TokenKind)
    (taken : List Token)
    (statements : List Statement)
    (rest : List Token) :
    Prop where
  derived : Derives Maximal (.sequence statements) taken
  precedence :
    ∀ expression ∈ blockExpressions statements, expression.RespectsPrecedence
  closes : Closes closing rest

end Parse

/-- The nested parsers read only what the grammar derives. -/
structure NestedParsers.Sound (nested : NestedParsers) : Prop where
  expression : Parse.SoundUpTo 6 nested.expression
  operand : Parse.SoundUpTo 0 nested.operand
  body :
    ∀ tokens,
      Parse.Ensures nested.body tokens
        (Parse.DerivesSequence (some .rightBrace))
  branch :
    ∀ keyword tokens,
      keyword.kind = .keyword .ifWord →
      Parse.Ensures nested.branch (keyword :: tokens)
        fun taken statement rest =>
          Parse.DerivesStatement taken statement rest ∧
            ∃ position condition thenBody elseBody,
              statement = .branch position condition thenBody elseBody

namespace Parse

open Grammar Statement

section Storey

variable {nested : NestedParsers}

/-- An expression of a statement goes on as far as it can. -/
theorem ensures_inner_expression
    (sound : nested.Sound)
    (tokens : List Token) :
    Ensures nested.expression tokens fun taken read rest =>
      Spells taken read.expression ∧
        read.expression.RespectsPrecedence ∧ ¬BeginsWithOperator rest := by
  refine (sound.expression tokens).weaken ?_
  rintro taken read rest _ ⟨spelled, stops⟩
  exact ⟨spelled.spelled, spelled.precedence,
    (stopsAbove_six_iff rest).mp stops⟩

/-- A block that is read is spelled by what was taken for it. -/
theorem ensures_block
    (sound : nested.Sound)
    (tokens : List Token) :
    Ensures (block nested) tokens fun taken body _ =>
      DerivesBlock taken body := by
  apply (ensures_expect .leftBrace .expectedBlockStart tokens).bind
  rintro _ opening inside _ ⟨rfl, opens⟩
  apply (sound.body inside).bind
  intro taken body rest _ sequence
  apply (ensures_expect .rightBrace .expectedBlockEnd rest).bind
  rintro _ closing later _ ⟨rfl, closes⟩
  have derived :
      Derives Maximal (.block body) (opening :: (taken ++ [closing])) :=
    .block opens sequence.derived closes
  exact .pure ⟨by simpa using derived, sequence.precedence⟩

/-- A `let` statement that is read is spelled by what was taken for it. -/
theorem ensures_bindStatement
    (sound : nested.Sound)
    {keyword : Token}
    (keyed : keyword.kind = .keyword .letWord)
    (tokens : List Token) :
    Ensures (bindStatement nested) (keyword :: tokens) DerivesStatement := by
  refine .step [] (reads_place keyword tokens) ?_
  refine .step [keyword] (reads_advance keyword tokens) ?_
  apply (ensures_expect .identifier .expectedName tokens).bind
  rintro _ name afterName _ ⟨rfl, named⟩
  apply (ensures_expect .assign .expectedAssign afterName).bind
  rintro _ equals afterEquals _ ⟨rfl, assigns⟩
  apply (ensures_inner_expression sound afterEquals).bind
  rintro taken value rest _ ⟨spelled, precedence, ends⟩
  apply Ensures.pure
  constructor
  · have derived :
        Derives Maximal
          (.statement (.bind keyword.position name.lexeme value.expression))
          (keyword :: name :: equals :: taken) :=
      .bind keyed named assigns spelled
    simpa using derived
  · simpa [expressions] using precedence
  · exact fun _ => ends

/-- An assignment that is read is spelled by what was taken for it. -/
theorem ensures_assignStatement
    (sound : nested.Sound)
    {target equals : Token}
    (named : target.kind = .identifier)
    (assigns : equals.kind = .assign)
    (tokens : List Token) :
    Ensures (assignStatement nested target) (target :: equals :: tokens)
      DerivesStatement := by
  refine .step [target] (reads_advance target (equals :: tokens)) ?_
  refine .step [equals] (reads_advance equals tokens) ?_
  apply (ensures_inner_expression sound tokens).bind
  rintro taken value rest _ ⟨spelled, precedence, ends⟩
  apply Ensures.pure
  constructor
  · have derived :
        Derives Maximal
          (.statement
            (.assign target.position target.lexeme value.expression))
          (target :: equals :: taken) :=
      .assign named assigns spelled
    simpa using derived
  · simpa [expressions] using precedence
  · exact fun _ => ends

/-- Further arguments are spelled behind the ones found before. -/
theorem ensures_argumentsFrom
    (sound : nested.Sound)
    (rounds : List Token)
    {tokens : List Token}
    (found : List Expression)
    (ends : ¬BeginsWithOperator tokens) :
    Ensures (argumentsFrom nested rounds found) tokens
      fun taken result rest =>
        ∃ arguments,
          result = found.reverse ++ arguments ∧
          SpellsArguments taken arguments ∧
          (∀ argument ∈ arguments, argument.RespectsPrecedence) ∧
          ¬BeginsWithOperator rest := by
  induction rounds generalizing tokens found with
  | nil =>
      exact .pure ⟨[], by simp, .none, nofun, ends⟩
  | cons round rounds hypothesis =>
      apply (ensures_accept .comma tokens).bind
      rintro before accepted rest _ accepts
      cases accepts with
      | inl yes =>
          obtain ⟨rfl, comma, rfl, separates⟩ := yes
          simp only [↓reduceIte]
          apply (ensures_inner_expression sound rest).bind
          rintro taken argument middle _ ⟨spelled, precedence, argumentEnds⟩
          refine (hypothesis (argument.expression :: found)
            argumentEnds).weaken ?_
          rintro more result last _
            ⟨arguments, rfl, moreSpelled, morePrecedence, moreEnds⟩
          refine ⟨argument.expression :: arguments, by simp, ?_, ?_, moreEnds⟩
          · simpa using SpellsArguments.more separates spelled moreSpelled
          · simpa using ⟨precedence, morePrecedence⟩
      | inr no =>
          obtain ⟨rfl, rfl, rfl⟩ := no
          simp only [Bool.false_eq_true, ↓reduceIte]
          exact .pure ⟨[], by simp, .none, nofun, ends⟩

/-- A `print` statement that is read is spelled by what was taken for it. -/
theorem ensures_printStatement
    (sound : nested.Sound)
    {keyword : Token}
    (keyed : keyword.kind = .keyword .printWord)
    (tokens : List Token) :
    Ensures (printStatement nested) (keyword :: tokens) DerivesStatement := by
  refine .step [] (reads_place keyword tokens) ?_
  refine .step [keyword] (reads_advance keyword tokens) ?_
  apply (ensures_inner_expression sound tokens).bind
  rintro taken first middle _ ⟨spelled, precedence, firstEnds⟩
  refine .step [] (reads_remaining middle) ?_
  apply (ensures_argumentsFrom sound middle [first.expression] firstEnds).bind
  rintro more result rest _
    ⟨arguments, rfl, moreSpelled, morePrecedence, ends⟩
  apply Ensures.pure
  constructor
  · have derived :
        Derives Maximal
          (.statement
            (.print keyword.position (first.expression :: arguments)))
          (keyword :: (taken ++ more)) :=
      .print keyed spelled moreSpelled
    simpa using derived
  · simpa [expressions] using ⟨precedence, morePrecedence⟩
  · exact fun _ => ends

/-- What is read behind an `else` is spelled by what was taken for it. -/
theorem ensures_elseBody
    (sound : nested.Sound)
    (tokens : List Token) :
    Ensures (elseBody nested) tokens fun taken body _ =>
      DerivesElse taken body := by
  apply (ensures_accept (.keyword .elseWord) tokens).bind
  rintro before accepted rest _ accepts
  cases accepts with
  | inl yes =>
      obtain ⟨rfl, keyword, rfl, keyed⟩ := yes
      simp only [↓reduceIte]
      refine .step [] (reads_nextIs (.keyword .ifWord) rest) ?_
      split
      · next nextIsBranch =>
          cases rest with
          | nil =>
              cases nextIsBranch
          | cons next later =>
              have nextKeyed : next.kind = .keyword .ifWord := by
                simpa using nextIsBranch
              apply (sound.branch next later nextKeyed).bind
              rintro taken statement last _
                ⟨branch, position, condition, thenBody, elseBody, rfl⟩
              refine .pure ⟨?_, ?_⟩
              · simpa using Derives.elseBranch keyed branch.derived
              · simpa [elseExpressions, blockExpressions] using
                  branch.precedence
      · apply (ensures_block sound rest).bind
        intro taken body last _ block
        refine .pure ⟨?_, block.precedence⟩
        simpa using Derives.elseBlock keyed block.derived
  | inr no =>
      obtain ⟨rfl, rfl, rfl⟩ := no
      simp only [Bool.false_eq_true, ↓reduceIte]
      exact .pure ⟨.noElse, nofun⟩

/-- A conditional statement that is read is spelled by what was taken for it. -/
theorem ensures_branchStatement
    (sound : nested.Sound)
    {keyword : Token}
    (keyed : keyword.kind = .keyword .ifWord)
    (tokens : List Token) :
    Ensures (branchStatement nested) (keyword :: tokens)
      fun taken statement rest =>
        DerivesStatement taken statement rest ∧
          ∃ position condition thenBody elseBody,
            statement = .branch position condition thenBody elseBody := by
  refine .step [] (reads_place keyword tokens) ?_
  refine .step [keyword] (reads_advance keyword tokens) ?_
  apply (ensures_inner_expression sound tokens).bind
  rintro conditionTokens condition middle _ ⟨spelled, precedence, _⟩
  apply (ensures_block sound middle).bind
  intro thenTokens thenBody behind _ thenBlock
  apply (ensures_elseBody sound behind).bind
  intro elseTokens otherwise rest _ elseDerived
  refine .pure ⟨⟨?_, ?_, False.elim⟩, _, _, _, _, rfl⟩
  · have derived :
        Derives Maximal
          (.statement
            (.branch keyword.position condition.expression thenBody
              otherwise))
          (keyword :: (conditionTokens ++ (thenTokens ++ elseTokens))) :=
      .branch keyed spelled thenBlock.derived elseDerived.derived
    simpa using derived
  · simp only [expressions, List.forall_mem_cons, List.forall_mem_append]
    exact ⟨precedence, thenBlock.precedence, elseDerived.precedence⟩

/-- A loop that is read is spelled by what was taken for it. -/
theorem ensures_loopStatement
    (sound : nested.Sound)
    {keyword : Token}
    (keyed : keyword.kind = .keyword .whileWord)
    (tokens : List Token) :
    Ensures (loopStatement nested) (keyword :: tokens) DerivesStatement := by
  refine .step [] (reads_place keyword tokens) ?_
  refine .step [keyword] (reads_advance keyword tokens) ?_
  apply (ensures_inner_expression sound tokens).bind
  rintro conditionTokens condition middle _ ⟨spelled, precedence, _⟩
  apply (ensures_block sound middle).bind
  intro bodyTokens body rest _ block
  refine .pure ⟨?_, ?_, False.elim⟩
  · have derived :
        Derives Maximal
          (.statement
            (.loop keyword.position condition.expression body))
          (keyword :: (conditionTokens ++ bodyTokens)) :=
      .loop keyed spelled block.derived
    simpa using derived
  · simp only [expressions, List.forall_mem_cons]
    exact ⟨precedence, block.precedence⟩

/-- An expression read as a statement is spelled by what was taken for it. -/
theorem ensures_evaluateStatement
    (sound : nested.Sound)
    (tokens : List Token) :
    Ensures (evaluateStatement nested) tokens DerivesStatement := by
  apply (ensures_inner_expression sound tokens).bind
  rintro taken value rest _ ⟨spelled, precedence, ends⟩
  refine .pure ⟨?_, ?_, fun _ => ends⟩
  · simpa using Derives.evaluate spelled spelled.beginsAt
  · simpa [expressions] using precedence

/-- A statement of any kind is derived from the tokens that it took. -/
theorem ensures_statement
    (sound : nested.Sound)
    (tokens : List Token) :
    Ensures (statement nested) tokens DerivesStatement := by
  refine .step [] (reads_peek? tokens) ?_
  cases tokens with
  | nil =>
      exact ensures_evaluateStatement sound []
  | cons token later =>
      refine .step [] (reads_record _ _) ?_
      simp only [List.nil_append]
      split
      · next keyed =>
          exact ensures_bindStatement sound keyed later
      · next keyed =>
          exact ensures_printStatement sound keyed later
      · next keyed =>
          refine (ensures_branchStatement sound keyed later).weaken ?_
          exact fun _ _ _ _ branch => branch.1
      · next keyed =>
          exact ensures_loopStatement sound keyed later
      · next named =>
          refine .step [] (reads_secondIs .assign (token :: later)) ?_
          split
          · next secondAssigns =>
              cases later with
              | nil =>
                  cases secondAssigns
              | cons equals later =>
                  have assigns : equals.kind = .assign := by
                    simpa using secondAssigns
                  exact ensures_assignStatement sound named assigns later
          · exact ensures_evaluateStatement sound (token :: later)
      · exact ensures_evaluateStatement sound (token :: later)

/-- Statements are only taken to be at their end where they are. -/
theorem ensures_atClosing
    (closing : Option TokenKind)
    (tokens : List Token) :
    Ensures (atClosing closing) tokens fun taken closed rest =>
      taken = [] ∧ rest = tokens ∧ (closed = true → Closes closing rest) := by
  refine .step [] (reads_peek? tokens) ?_
  cases tokens with
  | nil =>
      exact .pure ⟨rfl, rfl, fun _ => nofun⟩
  | cons token later =>
      refine .pure ⟨rfl, rfl, ?_⟩
      intro closed first member
      cases member
      simpa using closed

/-- Further statements are derived behind the ones found before. -/
theorem ensures_statementsFrom
    (sound : nested.Sound)
    (closing : Option TokenKind)
    (rounds : List Token)
    {tokens : List Token}
    (found : List Statement)
    (enough : tokens.length ≤ rounds.length) :
    Ensures (statementsFrom nested closing rounds found) tokens
      fun taken result rest =>
        ∃ statements,
          result = found.reverse ++ statements ∧
          DerivesSequence closing taken statements rest := by
  induction rounds generalizing tokens found with
  | nil =>
      have ended : tokens = [] := by
        simpa using enough
      subst ended
      exact .pure ⟨[], by simp, .empty, nofun, nofun⟩
  | cons round rounds hypothesis =>
      apply (ensures_skipSemicolons tokens).bind
      rintro separators _ skipped rfl separate
      apply (ensures_atClosing closing skipped).bind
      rintro _ closed middle _ ⟨rfl, rfl, closes⟩
      split
      · next isClosed =>
          refine .pure ⟨[], by simp, ?_, nofun, closes isClosed⟩
          simpa using Derives.empty.semicolons separate
      · apply (ensures_statement sound middle).bind
        rintro taken first rest rfl firstDerived
        have shorter : rest.length ≤ rounds.length := by
          obtain ⟨opening, more, rfl, _⟩ := firstDerived.derived.exists_first
          simp only [List.length_cons, List.length_append] at enough
          omega
        refine (hypothesis (first :: found) shorter).weaken ?_
        rintro more result last rfl ⟨statements, rfl, derived⟩
        refine ⟨first :: statements, by simp, ?_, ?_, derived.closes⟩
        · have sequence :=
            Derives.next firstDerived.derived firstDerived.maximal.of_append
              derived.derived
          simpa using sequence.semicolons separate
        · simp only [blockExpressions, List.forall_mem_append]
          exact ⟨firstDerived.precedence, derived.precedence⟩

/-- A sequence that is read is spelled by what was taken for it. -/
theorem ensures_statements
    (sound : nested.Sound)
    (closing : Option TokenKind)
    (tokens : List Token) :
    Ensures (statements nested closing) tokens (DerivesSequence closing) := by
  refine .step [] (reads_remaining tokens) ?_
  refine (ensures_statementsFrom sound closing tokens []
    (Nat.le_refl _)).weaken ?_
  rintro taken result rest _ ⟨statements, rfl, derived⟩
  exact derived

end Storey

end Parse

namespace NestedParsers

/-- Parsers that read nothing are sound. -/
theorem refusing_sound : refusing.Sound where
  expression tokens := Parse.ensures_refuseDepth tokens
  operand tokens := Parse.ensures_refuseDepth tokens
  body tokens := Parse.ensures_refuseDepth tokens
  branch keyword tokens _ := Parse.ensures_refuseDepth (keyword :: tokens)

/-- One storey over a sound one is sound. -/
theorem Sound.around
    {nested : NestedParsers}
    (sound : nested.Sound) :
    nested.around.Sound where
  expression := (sound.operand.unary sound.expression).overAllLevels
  operand := sound.operand.unary sound.expression
  body := Parse.ensures_statements sound (some .rightBrace)
  branch _ tokens keyed := Parse.ensures_branchStatement sound keyed tokens

/-- The parsers of any number of nesting levels are sound. -/
theorem within_sound (levels : Nat) : (within levels).Sound := by
  induction levels with
  | zero =>
      exact refusing_sound
  | succ levels hypothesis =>
      exact hypothesis.around

end NestedParsers

namespace Program

/-- The run of the parsers that a program comes from. -/
theorem exists_run_of_ofTokens
    {tokens : List Token}
    {program : Program}
    (parsed : ofTokens tokens = .ok program) :
    ∃ final,
      Parse.statements (NestedParsers.within nestingLimit) none
          (ParseState.ofTokens tokens) =
        .ok program.statements final ∧
      (parse tokens).events =
        final.events.push (.parsed program.statements.length) := by
  unfold ofTokens parse at parsed
  unfold parse
  cases run :
      Parse.statements (NestedParsers.within nestingLimit) none
        (ParseState.ofTokens tokens) with
  | error fault final =>
      simp only [run] at parsed
      cases parsed
  | ok statements final =>
      simp only [run] at parsed
      cases parsed
      refine ⟨final, rfl, ?_⟩
      simp only [run]

/--
A program that is parsed is derived from the tokens in front of the first end
token, and it respects precedence.
-/
theorem derives_of_ofTokens_eq_ok
    {tokens : List Token}
    {program : Program}
    (parsed : ofTokens tokens = .ok program) :
    Grammar.Derives Grammar.Maximal (.sequence program.statements)
        (tokens.takeWhile fun token => token.kind != .endOfInput) ∧
      program.RespectsPrecedence := by
  unfold ofTokens parse at parsed
  cases run :
      Parse.statements (NestedParsers.within nestingLimit) none
        (ParseState.ofTokens tokens) with
  | error fault final =>
      simp only [run] at parsed
      cases parsed
  | ok statements final =>
      simp only [run] at parsed
      cases parsed
      obtain ⟨taken, shape, sequence⟩ :=
        Parse.ensures_statements (NestedParsers.within_sound nestingLimit)
          none tokens _ _ _ rfl run
      refine ⟨?_, sequence.precedence⟩
      have noEnd :
          ∀ token ∈ taken, (token.kind != .endOfInput) = true := by
        simpa using sequence.derived.kind_ne_endOfInput
      rw [shape, List.takeWhile_append_of_pos noEnd,
        sequence.closes.takeWhile_eq_nil, List.append_nil]
      exact sequence.derived

/--
A difference on one line and a `print` on the next are two statements, each of
which takes all it can.
-/
theorem derives_difference_then_print :
    Grammar.Derives Grammar.Maximal
        (.sequence
          [.evaluate
            (.binary (.arithmetic .subtract) (.reference ⟨1, 1⟩ "a")
              (.reference ⟨1, 4⟩ "b")),
            .print ⟨2, 1⟩ [.reference ⟨2, 7⟩ "c"]])
        [⟨.identifier, "a", ⟨1, 1⟩⟩, ⟨.minus, "-", ⟨1, 3⟩⟩,
          ⟨.identifier, "b", ⟨1, 4⟩⟩,
          ⟨.keyword .printWord, "print", ⟨2, 1⟩⟩,
          ⟨.identifier, "c", ⟨2, 7⟩⟩] :=
  (@derives_of_ofTokens_eq_ok
    [⟨.identifier, "a", ⟨1, 1⟩⟩, ⟨.minus, "-", ⟨1, 3⟩⟩,
      ⟨.identifier, "b", ⟨1, 4⟩⟩, ⟨.keyword .printWord, "print", ⟨2, 1⟩⟩,
      ⟨.identifier, "c", ⟨2, 7⟩⟩, ⟨.endOfInput, "", ⟨2, 8⟩⟩,
      ⟨.comma, ",", ⟨3, 1⟩⟩]
    ⟨[.evaluate
        (.binary (.arithmetic .subtract) (.reference ⟨1, 1⟩ "a")
          (.reference ⟨1, 4⟩ "b")),
      .print ⟨2, 1⟩ [.reference ⟨2, 7⟩ "c"]]⟩
    rfl).1

end Program

end OwlScript
