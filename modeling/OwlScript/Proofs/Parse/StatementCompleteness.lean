import OwlScript.Proofs.Parse.Boundaries
import OwlScript.Proofs.Parse.ExpressionCompleteness

namespace OwlScript

/-!
# Reading each kind of statement

For each kind of statement: if the parts of it are read in turn, the statement
is read, and it is within the limits if all its parts are.
-/

namespace Statement

/-- Whether the nesting levels left and the greatest height are enough. -/
def Fits (levels : Nat) (statement : Statement) : Prop :=
  statement.nesting ≤ levels ∧
    ∀ expression ∈ statement.expressions, expression.height ≤ nestingLimit

/-- Whether all statements of a block fit. -/
def BlockFits (levels : Nat) (block : List Statement) : Prop :=
  blockNesting block ≤ levels ∧
    ∀ expression ∈ blockExpressions block, expression.height ≤ nestingLimit

/-- Whether all statements of a block fit one level further in. -/
def BlockFitsInside (levels : Nat) (body : List Statement) : Prop :=
  blockNesting body + 1 ≤ levels ∧
    ∀ expression ∈ blockExpressions body, expression.height ≤ nestingLimit

/-- Whether what follows the first block of a conditional statement fits. -/
def ElseFits (levels : Nat) (elseBody : Option (List Statement)) : Prop :=
  elseNesting elseBody ≤ levels ∧
    ∀ expression ∈ elseExpressions elseBody, expression.height ≤ nestingLimit

/-- A `print` statement fits if its arguments do. -/
theorem fits_print_iff
    (levels : Nat)
    (position : Position)
    (arguments : List Expression) :
    (Statement.print position arguments).Fits levels ↔
      ∀ argument ∈ arguments, argument.FitsInside levels := by
  simp only [Fits, nesting, expressions, Expression.FitsInside]
  induction arguments with
  | nil =>
      simp
  | cons argument arguments hypothesis =>
      simp only [List.foldr_cons, Nat.max_le, List.forall_mem_cons,
        ← hypothesis]
      grind

/-- A conditional statement fits if its condition and its branches do. -/
theorem fits_branch_iff
    (levels : Nat)
    (position : Position)
    (condition : Expression)
    (thenBody : List Statement)
    (elseBody : Option (List Statement)) :
    (Statement.branch position condition thenBody elseBody).Fits levels ↔
      condition.FitsInside levels ∧
        BlockFitsInside levels thenBody ∧ ElseFits levels elseBody := by
  simp only [Fits, nesting, expressions, Expression.FitsInside,
    BlockFitsInside, ElseFits, Nat.max_le, List.forall_mem_cons,
    List.forall_mem_append]
  grind

/-- A loop fits if its condition and its body do. -/
theorem fits_loop_iff
    (levels : Nat)
    (position : Position)
    (condition : Expression)
    (body : List Statement) :
    (Statement.loop position condition body).Fits levels ↔
      condition.FitsInside levels ∧ BlockFitsInside levels body := by
  simp only [Fits, nesting, expressions, Expression.FitsInside,
    BlockFitsInside, Nat.max_le, List.forall_mem_cons]
  grind

/-- A block fits if its first statement and the rest of it do. -/
theorem blockFits_cons_iff
    (levels : Nat)
    (statement : Statement)
    (rest : List Statement) :
    BlockFits levels (statement :: rest) ↔
      statement.Fits levels ∧ BlockFits levels rest := by
  simp only [BlockFits, blockNesting, blockExpressions, Fits, Nat.max_le,
    List.forall_mem_append]
  grind

end Statement

namespace Parse

open Grammar Statement

section Parts

variable {levels : Nat}

/-- Tokens that spell an expression are read where one may stand. -/
theorem reads_inner_expression
    (levels : Nat)
    {tokens later : List Token}
    {expression : Expression}
    (spelled : Spells tokens expression)
    (precedence : expression.RespectsPrecedence)
    (ends : ¬BeginsWithOperator later) :
    Reads (NestedParsers.within levels).expression (tokens ++ later)
      (expression.FitsInside levels) (.of expression) later :=
  reads_nested_expression (readsExpression_of_spells spelled precedence)
    levels ends

/-- The arguments that the tokens spell are read behind those found. -/
theorem reads_argumentsFrom
    {tokens later : List Token}
    {arguments : List Expression}
    (spelled : SpellsArguments tokens arguments)
    (precedence : ∀ argument ∈ arguments, argument.RespectsPrecedence)
    (behind : BeginsBehind later)
    (ends : ¬BeginsWithOperator later)
    (rounds : List Token)
    (enough : (tokens ++ later).length ≤ rounds.length)
    (found : List Expression) :
    Reads (argumentsFrom (NestedParsers.within levels) rounds found)
      (tokens ++ later) (∀ argument ∈ arguments, argument.FitsInside levels)
      (found.reverse ++ arguments) later := by
  induction spelled generalizing rounds found with
  | none =>
      have noComma : ∀ token ∈ later.head?, token.kind ≠ .comma :=
        behind.kind_ne nofun nofun nofun rfl
      rw [List.nil_append, List.append_nil]
      refine Reads.congr ?_ (iff_of_true trivial (by simp))
      cases rounds with
      | nil =>
          exact .pure found.reverse later
      | cons round rounds =>
          exact (reads_accept_false noComma).step (.pure found.reverse later)
  | @more comma tokens more argument arguments separates spelled rest
      hypothesis =>
      rw [List.forall_mem_cons] at precedence
      cases rounds with
      | nil =>
          simp at enough
      | cons round rounds =>
          have restReads :=
            hypothesis precedence.2 rounds (by simp at enough; simp; omega)
              (argument :: found)
          have argumentReads :=
            reads_inner_expression levels spelled precedence.1
              (rest.not_beginsWithOperator ends)
          rw [List.cons_append, List.append_assoc, List.forall_mem_cons]
          refine (reads_accept_true separates _).step ?_
          rw [List.reverse_cons, List.append_assoc] at restReads
          exact argumentReads.bind restReads

/-- A block is read if its statements are read in front of its end. -/
theorem reads_block
    {opening closing : Token}
    {tokens later : List Token}
    {body : List Statement}
    (opens : opening.kind = .leftBrace)
    (closes : closing.kind = .rightBrace)
    (reads :
      ∀ fewer,
        Reads (statements (NestedParsers.within fewer) (some .rightBrace))
          (tokens ++ closing :: later) (BlockFits fewer body) body
          (closing :: later)) :
    Reads (block (NestedParsers.within levels))
      (opening :: (tokens ++ closing :: later)) (BlockFitsInside levels body)
      body later := by
  refine (reads_expect opens .expectedBlockStart _).step ?_
  cases levels with
  | zero =>
      refine ((reads_refuseDepth _ body (closing :: later)).finish ?_).congr
        (by simp [BlockFitsInside])
      exact (reads_expect closes .expectedBlockEnd later).step
        (.pure body later)
  | succ fewer =>
      refine ((reads fewer).finish ?_).congr
        (by simp [BlockFits, BlockFitsInside])
      exact (reads_expect closes .expectedBlockEnd later).step
        (.pure body later)

/-- The statement parser goes by the kind of the first token. -/
theorem reads_statement
    {token : Token}
    {tokens rest : List Token}
    {allowed : Prop}
    {result : Statement}
    {nested : NestedParsers}
    (reads :
      Reads
        (match token.kind with
          | .keyword .letWord => bindStatement nested
          | .keyword .printWord => printStatement nested
          | .keyword .ifWord => branchStatement nested
          | .keyword .whileWord => loopStatement nested
          | .identifier => do
              if ← secondIs .assign then
                assignStatement nested token
              else
                evaluateStatement nested
          | _ => evaluateStatement nested)
        (token :: tokens) allowed result rest) :
    Reads (statement nested) (token :: tokens) allowed result rest :=
  (reads_peek? (token :: tokens)).step
    ((reads_record _ (token :: tokens)).step reads)

/-- A `let` statement is read from its keyword, its name and its value. -/
theorem reads_bind
    {keyword name equals : Token}
    {tokens later : List Token}
    {value : Expression}
    (keyed : keyword.kind = .keyword .letWord)
    (named : name.kind = .identifier)
    (assigns : equals.kind = .assign)
    (reads :
      Reads (NestedParsers.within levels).expression tokens
        (value.FitsInside levels) (.of value) later) :
    Reads (statement (NestedParsers.within levels))
      (keyword :: name :: equals :: tokens)
      ((Statement.bind keyword.position name.lexeme value).Fits levels)
      (.bind keyword.position name.lexeme value) later := by
  apply reads_statement
  simp only [keyed]
  refine (reads_place keyword _).step ?_
  refine (reads_advance keyword _).step ?_
  refine (reads_expect named .expectedName _).step ?_
  refine (reads_expect assigns .expectedAssign _).step ?_
  refine Reads.congr (reads.finish (.pure _ later)) ?_
  simp [Fits, nesting, expressions, Expression.FitsInside]

/-- An assignment is read from its name and its value. -/
theorem reads_assign
    {name equals : Token}
    {tokens later : List Token}
    {value : Expression}
    (named : name.kind = .identifier)
    (assigns : equals.kind = .assign)
    (reads :
      Reads (NestedParsers.within levels).expression tokens
        (value.FitsInside levels) (.of value) later) :
    Reads (statement (NestedParsers.within levels)) (name :: equals :: tokens)
      ((Statement.assign name.position name.lexeme value).Fits levels)
      (.assign name.position name.lexeme value) later := by
  apply reads_statement
  simp only [named]
  refine (reads_secondIs .assign _).step ?_
  simp only [List.getElem?_cons_succ, List.getElem?_cons_zero,
    Option.any_some, assigns, beq_self_eq_true, ↓reduceIte]
  refine (reads_advance name _).step ?_
  refine (reads_advance equals _).step ?_
  refine Reads.congr (reads.finish (.pure _ later)) ?_
  simp [Fits, nesting, expressions, Expression.FitsInside]

/-- A `print` statement is read from its keyword and its arguments. -/
theorem reads_print
    {keyword : Token}
    {tokens middle later : List Token}
    {argument : Expression}
    {arguments : List Expression}
    (keyed : keyword.kind = .keyword .printWord)
    (reads :
      Reads (NestedParsers.within levels).expression tokens
        (argument.FitsInside levels) (.of argument) middle)
    (restReads :
      Reads
        (argumentsFrom (NestedParsers.within levels) middle [argument])
        middle (∀ argument ∈ arguments, argument.FitsInside levels)
        (argument :: arguments) later) :
    Reads (statement (NestedParsers.within levels)) (keyword :: tokens)
      ((Statement.print keyword.position (argument :: arguments)).Fits levels)
      (.print keyword.position (argument :: arguments)) later := by
  apply reads_statement
  simp only [keyed]
  refine (reads_place keyword _).step ?_
  refine (reads_advance keyword _).step ?_
  rw [fits_print_iff, List.forall_mem_cons]
  refine reads.bind ?_
  refine (reads_remaining middle).step ?_
  exact restReads.finish (.pure _ later)

/-- A conditional statement is read from its condition and its branches. -/
theorem reads_branchStatement
    (keyword : Token)
    {tokens middle behind later : List Token}
    {condition : Expression}
    {thenBody : List Statement}
    {otherwise : Option (List Statement)}
    (reads :
      Reads (NestedParsers.within levels).expression tokens
        (condition.FitsInside levels) (.of condition) middle)
    (thenReads :
      Reads (block (NestedParsers.within levels)) middle
        (BlockFitsInside levels thenBody) thenBody behind)
    (elseReads :
      Reads (elseBody (NestedParsers.within levels)) behind
        (ElseFits levels otherwise) otherwise later) :
    Reads (branchStatement (NestedParsers.within levels)) (keyword :: tokens)
      ((Statement.branch keyword.position condition thenBody otherwise).Fits
        levels)
      (.branch keyword.position condition thenBody otherwise) later := by
  refine (reads_place keyword _).step ?_
  refine (reads_advance keyword _).step ?_
  rw [fits_branch_iff]
  exact reads.bind (thenReads.bind (elseReads.finish (.pure _ later)))

/-- A loop is read from its keyword, its condition and its body. -/
theorem reads_loop
    {keyword : Token}
    {tokens middle later : List Token}
    {condition : Expression}
    {body : List Statement}
    (keyed : keyword.kind = .keyword .whileWord)
    (reads :
      Reads (NestedParsers.within levels).expression tokens
        (condition.FitsInside levels) (.of condition) middle)
    (bodyReads :
      Reads (block (NestedParsers.within levels)) middle
        (BlockFitsInside levels body) body later) :
    Reads (statement (NestedParsers.within levels)) (keyword :: tokens)
      ((Statement.loop keyword.position condition body).Fits levels)
      (.loop keyword.position condition body) later := by
  apply reads_statement
  simp only [keyed]
  refine (reads_place keyword _).step ?_
  refine (reads_advance keyword _).step ?_
  rw [fits_loop_iff]
  exact reads.bind (bodyReads.finish (.pure _ later))

/--
An expression is read as a statement where no target of an assignment stands.
-/
theorem reads_evaluate
    {first : Token}
    {tokens later : List Token}
    {expression : Expression}
    (opens : first.kind.opensExpression = true)
    (noTarget :
      first.kind = .identifier →
        ∀ second ∈ tokens.head?, second.kind ≠ .assign)
    (reads :
      Reads (NestedParsers.within levels).expression (first :: tokens)
        (expression.FitsInside levels) (.of expression) later) :
    Reads (statement (NestedParsers.within levels)) (first :: tokens)
      ((Statement.evaluate expression).Fits levels) (.evaluate expression)
      later := by
  have evaluates :
      Reads (evaluateStatement (NestedParsers.within levels))
        (first :: tokens) ((Statement.evaluate expression).Fits levels)
        (.evaluate expression) later := by
    refine Reads.congr (reads.finish (.pure _ later)) ?_
    simp [Fits, nesting, expressions, Expression.FitsInside]
  apply reads_statement
  split
  · next letWord =>
      rw [letWord] at opens
      cases opens
  · next printWord =>
      rw [printWord] at opens
      cases opens
  · next ifWord =>
      rw [ifWord] at opens
      cases opens
  · next whileWord =>
      rw [whileWord] at opens
      cases opens
  · next identifier =>
      refine (reads_secondIs .assign _).step ?_
      have differs :
          ((first :: tokens)[1]?.any fun token => token.kind == .assign) =
            false := by
        cases tokens with
        | nil =>
            rfl
        | cons second tokens =>
            exact beq_eq_false_iff_ne.mpr (noTarget identifier second rfl)
      simp only [differs, Bool.false_eq_true, ↓reduceIte]
      exact evaluates
  · exact evaluates

/-- Where no `else` stands, there is no second branch. -/
theorem reads_elseBody_none
    {later : List Token}
    (absent : ∀ token ∈ later.head?, token.kind ≠ .keyword .elseWord) :
    Reads (elseBody (NestedParsers.within levels)) later
      (ElseFits levels none) none later := by
  refine Reads.congr
    ((reads_accept_false absent).step (.pure none later)) ?_
  simp [ElseFits, elseNesting, elseExpressions]

/-- Behind an `else`, a block is read as the second branch. -/
theorem reads_elseBody_block
    {keyword opening : Token}
    {tokens later : List Token}
    {body : List Statement}
    (keyed : keyword.kind = .keyword .elseWord)
    (opens : opening.kind = .leftBrace)
    (reads :
      Reads (block (NestedParsers.within levels)) (opening :: tokens)
        (BlockFitsInside levels body) body later) :
    Reads (elseBody (NestedParsers.within levels))
      (keyword :: opening :: tokens) (ElseFits levels (some body))
      (some body) later := by
  refine (reads_accept_true keyed _).step ?_
  simp only [↓reduceIte]
  refine (reads_nextIs (.keyword .ifWord) _).step ?_
  have differs : (opening.kind == .keyword .ifWord) = false := by
    rw [opens]
    rfl
  simp only [List.head?_cons, Option.any_some, differs, Bool.false_eq_true,
    ↓reduceIte]
  exact reads.finish (.pure (some body) later)

/--
Behind an `else`, a conditional statement is read as the only statement of the
second branch.
-/
theorem reads_elseBody_branch
    {keyword next : Token}
    {tokens later : List Token}
    {branch : Statement}
    (keyed : keyword.kind = .keyword .elseWord)
    (nextKeyed : next.kind = .keyword .ifWord)
    (reads :
      ∀ fewer,
        Reads (branchStatement (NestedParsers.within fewer)) (next :: tokens)
          (branch.Fits fewer) branch later) :
    Reads (elseBody (NestedParsers.within levels)) (keyword :: next :: tokens)
      (ElseFits levels (some [branch])) (some [branch]) later := by
  refine (reads_accept_true keyed _).step ?_
  simp only [↓reduceIte]
  refine (reads_nextIs (.keyword .ifWord) _).step ?_
  simp only [List.head?_cons, Option.any_some, nextKeyed,
    beq_self_eq_true, ↓reduceIte]
  cases levels with
  | zero =>
      refine Reads.congr
        ((reads_refuseDepth _ branch later).finish
          (.pure (some [branch]) later)) ?_
      simp [ElseFits, elseNesting]
  | succ fewer =>
      refine Reads.congr
        ((reads fewer).finish (.pure (some [branch]) later)) ?_
      simp [ElseFits, Fits, elseNesting, elseExpressions, blockNesting,
        blockExpressions]

/-- Where a sequence is closed, its end is seen. -/
theorem reads_atClosing
    {closing : Option TokenKind}
    {tokens : List Token}
    (closes : Closes closing tokens) :
    Reads (atClosing closing) tokens True true tokens := by
  refine (reads_peek? tokens).step ?_
  cases tokens with
  | nil =>
      exact .pure true []
  | cons token tokens =>
      have ended :
          (token.kind == .endOfInput || some token.kind == closing) = true := by
        simpa using closes token rfl
      simp only [List.head?_cons, ended]
      exact .pure true (token :: tokens)

/-- Where a statement opens, no end is seen. -/
theorem reads_atClosing_false
    {closing : Option TokenKind}
    {token : Token}
    {tokens : List Token}
    (opens : token.kind.opensStatement = true)
    (known : closing = none ∨ closing = some .rightBrace) :
    Reads (atClosing closing) (token :: tokens) True false
      (token :: tokens) := by
  refine (reads_peek? (token :: tokens)).step ?_
  have notEnded :
      (token.kind == .endOfInput || some token.kind == closing) = false := by
    rw [Bool.or_eq_false_iff, beq_eq_false_iff_ne, beq_eq_false_iff_ne]
    constructor
    · intro ends
      rw [ends] at opens
      cases opens
    · rintro rfl
      rcases known with isNone | isBrace
      · cases isNone
      · rw [Option.some.inj isBrace] at opens
        cases opens
  simp only [List.head?_cons, notEnded]
  exact .pure false (token :: tokens)

/-- A semicolon in front of statements makes no difference. -/
theorem reads_statementsFrom_semicolon
    {nested : NestedParsers}
    {closing : Option TokenKind}
    {separator round : Token}
    {tokens rest rounds : List Token}
    {found result : List Statement}
    {allowed : Prop}
    (separates : separator.kind = .semicolon)
    (reads :
      Reads (statementsFrom nested closing (round :: rounds) found) tokens
        allowed result rest) :
    Reads (statementsFrom nested closing (round :: rounds) found)
      (separator :: tokens) allowed result rest := by
  rintro ⟨rest, ending, events⟩ here
  cases here
  have skipped :
      skipSemicolons ⟨separator :: tokens, ending, events⟩ =
        skipSemicolons ⟨tokens, ending, events⟩ := by
    have dropped :
        (separator :: tokens).dropWhile (·.kind == .semicolon) =
          tokens.dropWhile (·.kind == .semicolon) := by
      simp [separates]
    exact congrArg
      (fun later => EStateM.Result.ok () (ParseState.mk later ending events))
      dropped
  unfold statementsFrom at reads ⊢
  rw [bind_apply, skipped, ← bind_apply]
  exact reads ⟨tokens, ending, events⟩ rfl

/-- Where no semicolon stands, none is skipped. -/
theorem reads_skipSemicolons_none
    {tokens : List Token}
    (absent : ∀ token ∈ tokens.head?, token.kind ≠ .semicolon) :
    Reads skipSemicolons tokens True () tokens := by
  have skips := reads_skipSemicolons tokens
  cases tokens with
  | nil =>
      exact skips
  | cons token tokens =>
      rw [List.dropWhile_cons_of_neg (by simpa using absent token rfl)] at skips
      exact skips

/-- Where a sequence is closed, the statements found are given. -/
theorem reads_statementsFrom_stop
    {nested : NestedParsers}
    {closing : Option TokenKind}
    {tokens : List Token}
    (closes : Closes closing tokens)
    (known : closing = none ∨ closing = some .rightBrace)
    (rounds : List Token)
    (found : List Statement) :
    Reads (statementsFrom nested closing rounds found) tokens True
      found.reverse tokens := by
  cases rounds with
  | nil =>
      exact .pure found.reverse tokens
  | cons round rounds =>
      have absent : ∀ token ∈ tokens.head?, token.kind ≠ .semicolon := by
        intro token member separates
        rcases closes token member with ends | braces
        · rw [separates] at ends
          cases ends
        · rw [separates] at braces
          rcases known with rfl | rfl <;> cases braces
      exact (reads_skipSemicolons_none absent).step
        ((reads_atClosing closes).step (.pure found.reverse tokens))

/-- Where a statement opens, it is read and the others behind it. -/
theorem reads_statementsFrom_next
    {nested : NestedParsers}
    {closing : Option TokenKind}
    {first round : Token}
    {tokens middle rest rounds : List Token}
    {next : Statement}
    {found result : List Statement}
    {allowed restAllowed : Prop}
    (opens : first.kind.opensStatement = true)
    (known : closing = none ∨ closing = some .rightBrace)
    (reads :
      Reads (statement nested) (first :: tokens) allowed next middle)
    (restReads :
      Reads (statementsFrom nested closing rounds (next :: found)) middle
        restAllowed result rest) :
    Reads (statementsFrom nested closing (round :: rounds) found)
      (first :: tokens) (allowed ∧ restAllowed) result rest := by
  have absent :
      ∀ token ∈ (first :: tokens).head?, token.kind ≠ .semicolon := by
    intro token member separates
    cases member
    rw [separates] at opens
    cases opens
  refine (reads_skipSemicolons_none absent).step ?_
  refine (reads_atClosing_false opens known).step ?_
  simp only [Bool.false_eq_true, ↓reduceIte]
  exact reads.bind restReads

end Parts

end Parse

end OwlScript
