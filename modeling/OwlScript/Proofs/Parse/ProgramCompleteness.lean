import OwlScript.Proofs.Parse.StatementCompleteness

namespace OwlScript

/-!
# Every program of the grammar is read

Tokens that spell a program are read as that program, unless it does not fit
within the limits.  The induction is on the derivation.  Each phrase is read
in front of everything that may stand behind it in a program, and what may
stand there never goes on with the phrase.
-/

namespace Parse

open Grammar Statement

/-- Whether the phrase is read wherever it may stand. -/
def ReadsPhrase : Phrase → List Token → Prop
  | .statement statement, tokens =>
      (∀ expression ∈ statement.expressions,
        expression.RespectsPrecedence) →
      ∀ levels later, BeginsBehind later → Maximal statement later →
        Reads (Parse.statement (NestedParsers.within levels))
          (tokens ++ later) (statement.Fits levels) statement later ∧
        (∀ position condition thenBody elseBody,
          statement = .branch position condition thenBody elseBody →
          Reads (branchStatement (NestedParsers.within levels))
            (tokens ++ later) (statement.Fits levels) statement later)
  | .block body, tokens =>
      (∀ expression ∈ blockExpressions body,
        expression.RespectsPrecedence) →
      ∀ levels later,
        Reads (block (NestedParsers.within levels)) (tokens ++ later)
          (BlockFitsInside levels body) body later
  | .otherwise body, tokens =>
      (∀ expression ∈ elseExpressions body,
        expression.RespectsPrecedence) →
      ∀ levels later, BeginsBehind later →
        Reads (elseBody (NestedParsers.within levels)) (tokens ++ later)
          (ElseFits levels body) body later
  | .sequence statements, tokens =>
      (∀ expression ∈ blockExpressions statements,
        expression.RespectsPrecedence) →
      ∀ levels closing later rounds found,
        (closing = none ∨ closing = some .rightBrace) →
        Closes closing later →
        (tokens ++ later).length ≤ rounds.length →
        Reads
          (statementsFrom (NestedParsers.within levels) closing rounds found)
          (tokens ++ later) (BlockFits levels statements)
          (found.reverse ++ statements) later

/-- A conditional statement is read, also behind an `else`, if its parts are. -/
theorem readsPhrase_branch
    {keyword : Token}
    {conditionTokens thenTokens elseTokens : List Token}
    {condition : Expression}
    {thenBody : List Statement}
    {elseBody : Option (List Statement)}
    (keyed : keyword.kind = .keyword .ifWord)
    (spelled : Spells conditionTokens condition)
    (thenDerived : Derives Maximal (.block thenBody) thenTokens)
    (thenReads : ReadsPhrase (.block thenBody) thenTokens)
    (elseReads : ReadsPhrase (.otherwise elseBody) elseTokens) :
    ReadsPhrase
      (.statement (.branch keyword.position condition thenBody elseBody))
      (keyword :: (conditionTokens ++ (thenTokens ++ elseTokens))) := by
  intro precedence levels later behind maximal
  simp only [expressions, List.forall_mem_cons, List.forall_mem_append]
    at precedence
  obtain ⟨conditionRespects, thenRespects, elseRespects⟩ := precedence
  have reads :=
    reads_branchStatement keyword
      (reads_inner_expression levels spelled conditionRespects
        (thenDerived.not_beginsWithOperator _))
      (thenReads thenRespects levels _)
      (elseReads elseRespects levels later behind)
  rw [List.cons_append, List.append_assoc, List.append_assoc]
  refine ⟨?_, fun _ _ _ _ _ => reads⟩
  apply reads_statement
  simp only [keyed]
  exact reads

/-- An expression is read as a statement. -/
theorem readsPhrase_evaluate
    {tokens : List Token}
    {expression : Expression}
    (spelled : Spells tokens expression) :
    ReadsPhrase (.statement (.evaluate expression)) tokens := by
  intro precedence levels later behind maximal
  refine ⟨?_, nofun⟩
  have reads :=
    reads_inner_expression levels spelled
      (precedence _ (by simp [expressions])) (maximal trivial)
  obtain ⟨first, more, rfl, opens, _⟩ := spelled.exists_first
  apply reads_evaluate opens ?_ reads
  -- A name in front of `=` would be taken for the target of an assignment.
  intro named second member
  cases more with
  | nil =>
      have noAssign : ∀ token ∈ later.head?, token.kind ≠ .assign :=
        behind.kind_ne nofun nofun nofun rfl
      exact noAssign second member
  | cons next more =>
      cases member
      exact spelled.second_kind_ne_assign rfl named

/-- A block is read one level further in, if its statements are. -/
theorem readsPhrase_block
    {opening closing : Token}
    {tokens : List Token}
    {body : List Statement}
    (opens : opening.kind = .leftBrace)
    (closes : closing.kind = .rightBrace)
    (bodyReads : ReadsPhrase (.sequence body) tokens) :
    ReadsPhrase (.block body) (opening :: (tokens ++ [closing])) := by
  intro precedence levels later
  rw [List.cons_append, List.append_assoc, List.singleton_append]
  apply reads_block opens closes
  intro fewer
  have closesBlock : Closes (some .rightBrace) (closing :: later) := by
    intro token member
    cases member
    exact .inr (congrArg some closes)
  exact (reads_remaining _).step
    (bodyReads precedence fewer (some .rightBrace) (closing :: later) _ []
      (.inr rfl) closesBlock (Nat.le_refl _))

/-- Behind an `else`, a conditional statement is read without a block. -/
theorem readsPhrase_elseBranch
    {keyword : Token}
    {tokens : List Token}
    {position : Position}
    {condition : Expression}
    {thenBody : List Statement}
    {elseBody : Option (List Statement)}
    (keyed : keyword.kind = .keyword .elseWord)
    (derived :
      Derives Maximal
        (.statement (.branch position condition thenBody elseBody)) tokens)
    (branchReads :
      ReadsPhrase (.statement (.branch position condition thenBody elseBody))
        tokens) :
    ReadsPhrase
      (.otherwise (some [.branch position condition thenBody elseBody]))
      (keyword :: tokens) := by
  intro precedence levels later behind
  have inside :
      ∀ expression ∈
        (Statement.branch position condition thenBody elseBody).expressions,
        expression.RespectsPrecedence := by
    simpa [elseExpressions, blockExpressions] using precedence
  have reads := fun fewer =>
    (branchReads inside fewer later behind nofun).2 _ _ _ _ rfl
  cases derived with
  | branch nextKeyed _ _ _ =>
      exact reads_elseBody_branch keyed nextKeyed reads

/-- Statements are read if the first one and the others are. -/
theorem readsPhrase_next
    {tokens more : List Token}
    {statement : Statement}
    {statements : List Statement}
    (first : Derives Maximal (.statement statement) tokens)
    (allowed : Maximal statement more)
    (rest : Derives Maximal (.sequence statements) more)
    (firstReads : ReadsPhrase (.statement statement) tokens)
    (restReads : ReadsPhrase (.sequence statements) more) :
    ReadsPhrase (.sequence (statement :: statements)) (tokens ++ more) := by
  intro precedence levels closing later rounds found known closes enough
  simp only [blockExpressions, List.forall_mem_append] at precedence
  have behind : BeginsBehind (more ++ later) :=
    rest.beginsBehind (closes.beginsBehind known)
  have statementReads :=
    (firstReads precedence.1 levels (more ++ later) behind
      (allowed.append (closes.not_beginsWithOperator known))).1
  obtain ⟨opening, tail, rfl, opens, _⟩ := first.exists_first
  rw [List.append_assoc, blockFits_cons_iff]
  -- The statement takes a token, so the rounds that are left are enough.
  cases rounds with
  | nil =>
      simp at enough
  | cons round rounds =>
      have othersRead :=
        restReads precedence.2 levels closing later rounds
          (statement :: found) known closes
          (by simp at enough; simp; omega)
      rw [List.reverse_cons, List.append_assoc] at othersRead
      exact reads_statementsFrom_next opens known statementReads othersRead

/-- Every phrase that the grammar derives is read. -/
theorem readsPhrase_of_derives
    {phrase : Phrase}
    {tokens : List Token}
    (derived : Derives Maximal phrase tokens) :
    ReadsPhrase phrase tokens := by
  induction derived with
  | bind keyed named assigns spelled =>
      intro precedence levels later behind maximal
      refine ⟨?_, nofun⟩
      exact reads_bind keyed named assigns
        (reads_inner_expression levels spelled
          (precedence _ (by simp [expressions])) (maximal trivial))
  | assign named assigns spelled =>
      intro precedence levels later behind maximal
      refine ⟨?_, nofun⟩
      exact reads_assign named assigns
        (reads_inner_expression levels spelled
          (precedence _ (by simp [expressions])) (maximal trivial))
  | print keyed spelled rest =>
      intro precedence levels later behind maximal
      refine ⟨?_, nofun⟩
      simp only [expressions, List.forall_mem_cons] at precedence
      rw [List.cons_append, List.append_assoc]
      apply reads_print keyed
      · exact reads_inner_expression levels spelled precedence.1
          (rest.not_beginsWithOperator (maximal trivial))
      · exact reads_argumentsFrom rest precedence.2 behind (maximal trivial)
          _ (Nat.le_refl _) _
  | branch keyed spelled thenDerived _ thenHypothesis elseHypothesis =>
      exact readsPhrase_branch keyed spelled thenDerived thenHypothesis
        elseHypothesis
  | loop keyed spelled derived hypothesis =>
      intro precedence levels later behind maximal
      refine ⟨?_, nofun⟩
      simp only [expressions, List.forall_mem_cons] at precedence
      rw [List.cons_append, List.append_assoc]
      apply reads_loop keyed
      · exact reads_inner_expression levels spelled precedence.1
          (derived.not_beginsWithOperator later)
      · exact hypothesis precedence.2 levels later
  | evaluate spelled _ =>
      exact readsPhrase_evaluate spelled
  | block opens _ closes hypothesis =>
      exact readsPhrase_block opens closes hypothesis
  | noElse =>
      intro precedence levels later behind
      exact reads_elseBody_none (behind.kind_ne nofun nofun nofun rfl)
  | elseBlock keyed derived hypothesis =>
      intro precedence levels later behind
      have reads := hypothesis precedence levels later
      cases derived with
      | block opens _ closes =>
          exact reads_elseBody_block keyed opens reads
  | elseBranch keyed derived hypothesis =>
      exact readsPhrase_elseBranch keyed derived hypothesis
  | empty =>
      intro precedence levels closing later rounds found known closes enough
      rw [List.nil_append, List.append_nil]
      refine (reads_statementsFrom_stop closes known rounds found).congr ?_
      simp [BlockFits, blockNesting, blockExpressions]
  | semicolon separates derived hypothesis =>
      intro precedence levels closing later rounds found known closes enough
      cases rounds with
      | nil =>
          simp at enough
      | cons round rounds =>
          apply reads_statementsFrom_semicolon separates
          apply hypothesis precedence levels closing later _ found known closes
          simp at enough ⊢
          omega
  | next first allowed rest firstHypothesis restHypothesis =>
      exact readsPhrase_next first allowed rest firstHypothesis restHypothesis

/-- Tokens that spell statements are read as these up to the end. -/
theorem reads_statements
    {block : List Statement}
    {tokens later : List Token}
    (derived : Derives Maximal (.sequence block) tokens)
    (precedence :
      ∀ expression ∈ blockExpressions block, expression.RespectsPrecedence)
    (closes : Closes none later)
    (levels : Nat) :
    Reads (statements (NestedParsers.within levels) none) (tokens ++ later)
      (BlockFits levels block) block later :=
  (reads_remaining _).step
    (readsPhrase_of_derives derived precedence levels none later _ []
      (.inl rfl) closes (Nat.le_refl _))

end Parse

namespace Program

/-- What is read as statements is parsed as a program. -/
theorem ofTokens_of_reads
    {tokens rest : List Token}
    {block : List Statement}
    {allowed : Prop}
    (reads :
      Parse.Reads
        (Parse.statements (NestedParsers.within nestingLimit) none) tokens
        allowed block rest) :
    (allowed → ofTokens tokens = .ok ⟨block⟩) ∧
      (¬allowed →
        ∃ position, ofTokens tokens = .error (tooDeepAt position)) := by
  obtain ⟨accepts, refuses⟩ := reads (.ofTokens tokens) rfl
  constructor
  · intro may
    obtain ⟨final, run, _⟩ := accepts may
    simp [ofTokens, parse, run]
  · intro mayNot
    obtain ⟨position, final, run⟩ := refuses mayNot
    exact ⟨position, by simp [ofTokens, parse, run]⟩

/--
Tokens of the grammar are parsed as the program that they derive if it is
within the limits, whatever stands behind an end token.
-/
theorem ofTokens_of_derives
    {program : Program}
    {tokens later : List Token}
    (derived :
      Grammar.Derives Grammar.Maximal (.sequence program.statements) tokens)
    (precedence : program.RespectsPrecedence)
    (closes : Grammar.Closes none later) :
    (program.WithinLimits → ofTokens (tokens ++ later) = .ok program) ∧
      (¬program.WithinLimits →
        ∃ position,
          ofTokens (tokens ++ later) = .error (tooDeepAt position)) :=
  ofTokens_of_reads
    (Parse.reads_statements derived precedence closes nestingLimit)

/--
A program is parsed from every spelling of it exactly if it is within the
limits.  Otherwise the fault is the nesting, at one place or another.
-/
theorem spelled_parsed_iff_withinLimits
    {program : Program}
    {tokens : List Token}
    (precedence : program.RespectsPrecedence)
    (spelled : program.SpelledBy tokens) :
    ((∃ parsed, ofTokens tokens = .ok parsed ∧
        parsed.unplaced = program.unplaced) ↔
      program.WithinLimits) ∧
    (¬program.WithinLimits →
      ∃ position,
        ofTokens tokens =
          .error
            { stage := .parser
              message := "expression nested too deeply"
              position := some position
              notes := ["nesting is limited to 256 levels"] }) := by
  obtain ⟨placed, body, ending, same, derived, rfl, ended⟩ := spelled
  have samePrecedence : placed.RespectsPrecedence := by
    rw [← respectsPrecedence_unplaced, same, respectsPrecedence_unplaced]
    exact precedence
  have sameLimits : placed.WithinLimits ↔ program.WithinLimits := by
    rw [← withinLimits_unplaced, same, withinLimits_unplaced]
  have closes : Grammar.Closes none ending := by
    rcases ended with rfl | ⟨last, rfl, isEnd⟩
    · exact nofun
    · intro token member
      cases member
      exact .inl isEnd
  obtain ⟨accepts, refuses⟩ :=
    ofTokens_of_derives
      (derived.mono fun _ _ separated => separated.maximal)
      samePrecedence closes
  rw [sameLimits] at accepts refuses
  refine ⟨⟨?_, fun within => ⟨placed, accepts within, same⟩⟩, refuses⟩
  rintro ⟨parsed, success, _⟩
  by_cases within : program.WithinLimits
  · exact within
  · obtain ⟨position, failure⟩ := refuses within
    rw [success] at failure
    cases failure

/-- A conditional statement with a loop behind its `else`. -/
def conditional : Program :=
  ⟨[.branch ⟨1, 1⟩ (.reference ⟨1, 4⟩ "a") []
    (some [.branch ⟨1, 17⟩ (.reference ⟨1, 20⟩ "b")
      [.print ⟨1, 24⟩
        [.binary (.arithmetic .subtract) (.reference ⟨1, 30⟩ "a")
          (.unary ⟨1, 34⟩ .negate (.reference ⟨1, 35⟩ "b"))]]
      none])]⟩

/-- One spelling of it, without an end token. -/
def conditionalTokens : List Token :=
  [⟨.keyword .ifWord, "if", ⟨1, 1⟩⟩, ⟨.identifier, "a", ⟨1, 4⟩⟩,
    ⟨.leftBrace, "\x7b", ⟨1, 6⟩⟩, ⟨.semicolon, ";", ⟨1, 8⟩⟩,
    ⟨.rightBrace, "\x7d", ⟨1, 10⟩⟩, ⟨.keyword .elseWord, "else", ⟨1, 12⟩⟩,
    ⟨.keyword .ifWord, "if", ⟨1, 17⟩⟩, ⟨.identifier, "b", ⟨1, 20⟩⟩,
    ⟨.leftBrace, "\x7b", ⟨1, 22⟩⟩, ⟨.keyword .printWord, "print", ⟨1, 24⟩⟩,
    ⟨.identifier, "a", ⟨1, 30⟩⟩, ⟨.minus, "-", ⟨1, 32⟩⟩,
    ⟨.minus, "-", ⟨1, 34⟩⟩, ⟨.identifier, "b", ⟨1, 35⟩⟩,
    ⟨.rightBrace, "\x7d", ⟨1, 37⟩⟩]

/-- The tokens of the conditional example spell it. -/
theorem conditional_spelledBy :
    conditional.SpelledBy conditionalTokens := by
  have reference (token : Token) (named : token.kind = .identifier) :
      Grammar.Spells [token] (.reference token.position token.lexeme) :=
    .reference named
  have alone (statement : Statement) : Grammar.Separated statement [] :=
    nofun
  have difference :
      Grammar.Spells
        [⟨.identifier, "a", ⟨1, 30⟩⟩, ⟨.minus, "-", ⟨1, 32⟩⟩,
          ⟨.minus, "-", ⟨1, 34⟩⟩, ⟨.identifier, "b", ⟨1, 35⟩⟩]
        (.binary (.arithmetic .subtract) (.reference ⟨1, 30⟩ "a")
          (.unary ⟨1, 34⟩ .negate (.reference ⟨1, 35⟩ "b"))) :=
    .binary (reference ⟨.identifier, "a", ⟨1, 30⟩⟩ rfl) rfl rfl
      (.unary rfl (reference ⟨.identifier, "b", ⟨1, 35⟩⟩ rfl))
  have print :
      Grammar.Derives Grammar.Separated
        (.statement
          (.print ⟨1, 24⟩
            [.binary (.arithmetic .subtract) (.reference ⟨1, 30⟩ "a")
              (.unary ⟨1, 34⟩ .negate (.reference ⟨1, 35⟩ "b"))]))
        [⟨.keyword .printWord, "print", ⟨1, 24⟩⟩,
          ⟨.identifier, "a", ⟨1, 30⟩⟩, ⟨.minus, "-", ⟨1, 32⟩⟩,
          ⟨.minus, "-", ⟨1, 34⟩⟩, ⟨.identifier, "b", ⟨1, 35⟩⟩] :=
    @Grammar.Derives.print _ ⟨.keyword .printWord, "print", ⟨1, 24⟩⟩ _ _ _ _
      rfl difference .none
  have inner :
      Grammar.Derives Grammar.Separated
        (.statement
          (.branch ⟨1, 17⟩ (.reference ⟨1, 20⟩ "b")
            [.print ⟨1, 24⟩
              [.binary (.arithmetic .subtract) (.reference ⟨1, 30⟩ "a")
                (.unary ⟨1, 34⟩ .negate (.reference ⟨1, 35⟩ "b"))]]
            none))
        [⟨.keyword .ifWord, "if", ⟨1, 17⟩⟩, ⟨.identifier, "b", ⟨1, 20⟩⟩,
          ⟨.leftBrace, "\x7b", ⟨1, 22⟩⟩,
          ⟨.keyword .printWord, "print", ⟨1, 24⟩⟩,
          ⟨.identifier, "a", ⟨1, 30⟩⟩, ⟨.minus, "-", ⟨1, 32⟩⟩,
          ⟨.minus, "-", ⟨1, 34⟩⟩, ⟨.identifier, "b", ⟨1, 35⟩⟩,
          ⟨.rightBrace, "\x7d", ⟨1, 37⟩⟩] :=
    @Grammar.Derives.branch _ ⟨.keyword .ifWord, "if", ⟨1, 17⟩⟩ _ _ _ _ _ _
      rfl (reference ⟨.identifier, "b", ⟨1, 20⟩⟩ rfl)
      (.block rfl (.next print (alone _) .empty) rfl) .noElse
  have derived :
      Grammar.Derives Grammar.Separated (.sequence conditional.statements)
        conditionalTokens :=
    .next
      (@Grammar.Derives.branch _ ⟨.keyword .ifWord, "if", ⟨1, 1⟩⟩ _ _ _ _ _ _
        rfl (reference ⟨.identifier, "a", ⟨1, 4⟩⟩ rfl)
        (.block rfl (.semicolon rfl .empty) rfl) (.elseBranch rfl inner))
      (alone _) .empty
  exact ⟨conditional, conditionalTokens, [], rfl, derived, rfl, .inl rfl⟩

/-- They are parsed as the example, up to its positions. -/
theorem conditional_parsed :
    ∃ parsed, ofTokens conditionalTokens = .ok parsed ∧
      parsed.unplaced = conditional.unplaced := by
  have precedence : conditional.RespectsPrecedence := by
    simp [RespectsPrecedence, expressions, conditional,
      Statement.blockExpressions, Statement.expressions,
      Statement.elseExpressions, Expression.RespectsPrecedence,
      Expression.level, BinaryOperator.level]
  have within : conditional.WithinLimits := by
    simp [WithinLimits, nesting, expressions, conditional,
      Statement.blockExpressions, Statement.expressions,
      Statement.elseExpressions, Statement.blockNesting, Statement.nesting,
      Statement.elseNesting, Expression.nesting, Expression.height,
      nestingLimit]
  exact (spelled_parsed_iff_withinLimits precedence
    conditional_spelledBy).1.mpr within

end Program

end OwlScript