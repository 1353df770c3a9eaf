import OwlScript.Proofs.Parse.WalkedTrace

namespace OwlScript

/-!
# The trace of a program is the walk over it

The parsers of statements are taken through one by one, each over a storey of
nesting of which it is known what trace it leaves.  A statement is noted before
it is read, with the position of the token in front; that this is where the
statement read stands, and that it takes a token at all, is known from the
grammar.
-/

/-- The nested parsers leave everything as walks over what they read do. -/
structure NestedParsers.Walking (nested : NestedParsers) : Prop where
  sound : nested.Sound
  expression : Parse.WalksExpressions nested.expression
  operand : Parse.WalksExpressions nested.operand
  body :
    ∀ start,
      Parse.Walks start nested.body fun body walk =>
        walk = Statement.walkSequence body start
  branch :
    ∀ start,
      Parse.Walks start nested.branch fun statement walk =>
        walk = statement.walkInside start

namespace Walk

/-- A statement that stands where the next token does is met with that. -/
theorem meetStatement_eq_note
    {walk : Walk}
    {token : Token}
    {rest : List Token}
    (ahead : walk.ahead = token :: rest) :
    walk.meetStatement token.position =
      walk.note (.statement token.position token.lexeme) := by
  rw [meetStatement, ahead]

/-- Where no token is left there are no semicolons to pass. -/
theorem passSemicolons_of_ahead_eq_nil
    {walk : Walk}
    (ended : walk.ahead = []) :
    walk.passSemicolons = walk := by
  rw [passSemicolons, ended, List.dropWhile_nil, ← ended]

end Walk

namespace Parse

section Storey

variable {nested : NestedParsers}

/-- A block is read as a walk over its statements, between its braces. -/
theorem walks_block (walking : nested.Walking) (start : Walk) :
    Walks start (block nested) fun body walk =>
      walk = (Statement.walkSequence body start.pass).pass := by
  refine (walks_expect _ _ start).move fun _ => ?_
  refine (walking.body start.pass).bind ?_
  rintro body _ rfl
  exact (walks_expect _ _ _).move fun _ => .pure rfl

/-- A `let` statement is read as a walk over it. -/
theorem walks_bindStatement (walking : nested.Walking) (start : Walk) :
    Walks start (bindStatement nested) fun statement walk =>
      walk = statement.walkInside start := by
  refine (walks_place start).move fun _ => ?_
  refine (walks_advance start).move fun _ => ?_
  refine (walks_expect _ _ _).move fun _ => ?_
  refine (walks_expect _ _ _).move fun _ => ?_
  refine (walking.expression _).bind ?_
  rintro value _ rfl
  exact .pure (by rw [Statement.walkInside])

/-- An assignment is read as a walk over it. -/
theorem walks_assignStatement
    (walking : nested.Walking)
    (target : Token)
    (start : Walk) :
    Walks start (assignStatement nested target) fun statement walk =>
      walk = statement.walkInside start := by
  refine (walks_advance start).move fun _ => ?_
  refine (walks_advance _).move fun _ => ?_
  refine (walking.expression _).bind ?_
  rintro value _ rfl
  exact .pure (by rw [Statement.walkInside])

/-- Each further argument is walked over behind its comma. -/
theorem walks_argumentsFrom
    (walking : nested.Walking)
    (rounds : List Token)
    (found : List Expression)
    (start : Walk) :
    Walks start (argumentsFrom nested rounds found) fun result walk =>
      ∃ arguments,
        result = found.reverse ++ arguments ∧
          walk =
            arguments.foldl
              (fun walk argument => argument.walk walk.pass) start := by
  induction rounds generalizing found start with
  | nil =>
      exact .pure ⟨[], by simp, rfl⟩
  | cons round rounds hypothesis =>
      refine (walks_accept .comma start).bind ?_
      rintro _ _ ⟨rfl, rfl⟩
      cases start.nextIs .comma with
      | false =>
          exact .pure ⟨[], by simp, rfl⟩
      | true =>
          refine (walking.expression start.pass).bind ?_
          rintro argument _ rfl
          refine (hypothesis (argument.expression :: found) _).weaken ?_
          rintro result _ ⟨arguments, rfl, rfl⟩
          exact ⟨argument.expression :: arguments, by simp, rfl⟩

/-- A `print` statement is read as a walk over it. -/
theorem walks_printStatement (walking : nested.Walking) (start : Walk) :
    Walks start (printStatement nested) fun statement walk =>
      walk = statement.walkInside start := by
  refine (walks_place start).move fun _ => ?_
  refine (walks_advance start).move fun _ => ?_
  refine (walking.expression _).bind ?_
  rintro first _ rfl
  refine (walks_remaining _).bind ?_
  rintro rounds _ ⟨-, rfl⟩
  refine (walks_argumentsFrom walking rounds [first.expression] _).bind ?_
  rintro _ _ ⟨arguments, rfl, rfl⟩
  exact .pure (by rw [Statement.walkInside]; rfl)

/-- What follows an `else` is met unless it is a conditional statement. -/
theorem walks_elseBody (walking : nested.Walking) (start : Walk) :
    Walks start (elseBody nested) fun body walk =>
      walk = Statement.walkElse body start := by
  refine (walks_accept (.keyword .elseWord) start).bind ?_
  rintro _ _ ⟨rfl, rfl⟩
  cases start.nextIs (.keyword .elseWord) with
  | false =>
      exact .pure (by rw [Statement.walkElse]; rfl)
  | true =>
      refine (walks_nextIs (.keyword .ifWord) start.pass).step ?_
      split
      · next isBranch =>
          refine (walking.branch start.pass).bind ?_
          rintro branch _ rfl
          refine .pure ?_
          rw [Statement.walkElse, if_pos isBranch, Statement.walkUnmet,
            Statement.walkUnmet]
      · next isBlock =>
          refine (walks_block walking start.pass).bind ?_
          rintro body _ rfl
          exact .pure (by rw [Statement.walkElse, if_neg isBlock])

/-- A conditional statement is read as a walk over it. -/
theorem walks_branchStatement (walking : nested.Walking) (start : Walk) :
    Walks start (branchStatement nested) fun statement walk =>
      walk = statement.walkInside start := by
  refine (walks_place start).move fun _ => ?_
  refine (walks_advance start).move fun _ => ?_
  refine (walking.expression _).bind ?_
  rintro condition _ rfl
  refine (walks_block walking _).bind ?_
  rintro thenBody _ rfl
  refine (walks_elseBody walking _).bind ?_
  rintro otherwise _ rfl
  exact .pure (by rw [Statement.walkInside])

/-- A loop is read as a walk over it. -/
theorem walks_loopStatement (walking : nested.Walking) (start : Walk) :
    Walks start (loopStatement nested) fun statement walk =>
      walk = statement.walkInside start := by
  refine (walks_place start).move fun _ => ?_
  refine (walks_advance start).move fun _ => ?_
  refine (walking.expression _).bind ?_
  rintro condition _ rfl
  refine (walks_block walking _).bind ?_
  rintro body _ rfl
  exact .pure (by rw [Statement.walkInside])

/-- A statement that is an expression is read as a walk over it. -/
theorem walks_evaluateStatement (walking : nested.Walking) (start : Walk) :
    Walks start (evaluateStatement nested) fun statement walk =>
      walk = statement.walkInside start := by
  refine (walking.expression start).bind ?_
  rintro value _ rfl
  exact .pure (by rw [Statement.walkInside])

/-- Every statement is noted by its first token and then walked over. -/
theorem walks_statement_of_ahead
    (walking : nested.Walking)
    {start : Walk}
    {token : Token}
    {rest : List Token}
    (ahead : start.ahead = token :: rest) :
    Walks start (statement nested) fun statement walk =>
      walk =
        statement.walkInside
          (start.note (.statement token.position token.lexeme)) := by
  refine (walks_peek? start).step ?_
  rw [ahead, List.head?_cons]
  refine (walks_record _ start).move fun _ => ?_
  split
  · exact walks_bindStatement walking _
  · exact walks_printStatement walking _
  · exact walks_branchStatement walking _
  · exact walks_loopStatement walking _
  · refine (walks_secondIs .assign _).move fun isAssignment => ?_
    split
    · exact walks_assignStatement walking token _
    · exact walks_evaluateStatement walking _
  · exact walks_evaluateStatement walking _

/-- A statement is met where it stands, and it takes a token. -/
theorem walks_statement (walking : nested.Walking) (start : Walk) :
    Walks start (statement nested) fun statement walk =>
      walk =
          statement.walkInside (start.meetStatement statement.position) ∧
        walk.ahead.length < start.ahead.length := by
  have ensures := ensures_statement walking.sound start.ahead
  cases ahead : start.ahead with
  | nil =>
      have anything : Walks start (statement nested) fun _ _ => True :=
        fun _ _ _ _ _ => trivial
      refine (anything.ensuring ensures).weaken ?_
      rintro statement walk ⟨-, taken, shape, derives⟩
      obtain ⟨first, more, rfl, -⟩ := derives.derived.exists_first
      rw [ahead] at shape
      cases shape
  | cons token rest =>
      refine ((walks_statement_of_ahead walking ahead).ensuring
        ensures).weaken ?_
      rintro statement walk ⟨isWalk, taken, shape, derives⟩
      obtain ⟨first, more, rfl, -, placed⟩ := derives.derived.exists_first
      rw [ahead, List.cons_append] at shape
      obtain ⟨rfl, rfl⟩ := List.cons.inj shape
      constructor
      · rw [isWalk, ← placed, Walk.meetStatement_eq_note ahead]
      · simp only [List.length_cons, List.length_append]
        omega

/-- Looking for the end of a sequence leaves the walk where it is. -/
theorem walks_atClosing (closing : Option TokenKind) (start : Walk) :
    Walks start (atClosing closing) fun _ walk => walk = start := by
  refine (walks_peek? start).step ?_
  cases start.ahead.head? with
  | none =>
      exact .pure rfl
  | some token =>
      exact .pure rfl

/-- Each further statement is met behind the semicolons in front of it. -/
theorem walks_statementsFrom
    (walking : nested.Walking)
    (closing : Option TokenKind)
    (rounds : List Token)
    (found : List Statement)
    {start : Walk}
    (enough : start.ahead.length ≤ rounds.length) :
    Walks start (statementsFrom nested closing rounds found)
      fun result walk =>
        ∃ statements,
          result = found.reverse ++ statements ∧
            walk = Statement.walkSequence statements start := by
  induction rounds generalizing found start with
  | nil =>
      have ended : start.ahead = [] := by
        simpa using enough
      refine .pure ⟨[], by simp, ?_⟩
      rw [Statement.walkSequence, Walk.passSemicolons_of_ahead_eq_nil ended]
  | cons round rounds hypothesis =>
      refine (walks_skipSemicolons start).move fun _ => ?_
      refine (walks_atClosing closing _).move fun isClosing => ?_
      split
      · exact .pure ⟨[], by simp, by rw [Statement.walkSequence]⟩
      · refine (walks_statement walking _).bind ?_
        rintro next behind ⟨isWalk, taken⟩
        have shorter : behind.ahead.length ≤ rounds.length := by
          have skipped :
              start.passSemicolons.ahead.length ≤ start.ahead.length :=
            (List.dropWhile_suffix _).length_le
          rw [List.length_cons] at enough
          omega
        refine (hypothesis (next :: found) shorter).weaken ?_
        rintro result walk ⟨statements, rfl, rfl⟩
        refine ⟨next :: statements, by simp, ?_⟩
        rw [Statement.walkSequence, isWalk]

/-- A sequence is read as a walk over its statements. -/
theorem walks_statements
    (walking : nested.Walking)
    (closing : Option TokenKind)
    (start : Walk) :
    Walks start (statements nested closing) fun statements walk =>
      walk = Statement.walkSequence statements start := by
  refine (walks_remaining start).step ?_
  refine (walks_statementsFrom walking closing start.ahead []
    (Nat.le_refl _)).weaken ?_
  rintro result walk ⟨statements, rfl, isWalk⟩
  exact isWalk

end Storey

end Parse

namespace NestedParsers

/-- The parsers that refuse every call walk over nothing. -/
theorem refusing_walking : refusing.Walking where
  sound := refusing_sound
  expression _ := Parse.walks_refuseDepth _
  operand _ := Parse.walks_refuseDepth _
  body _ := Parse.walks_refuseDepth _
  branch _ := Parse.walks_refuseDepth _

/-- What one storey leaves as walks do, so does the storey around it. -/
theorem Walking.around
    {nested : NestedParsers}
    (walking : nested.Walking) :
    nested.around.Walking where
  sound := walking.sound.around
  expression := (walking.operand.unary walking.expression).overAllLevels
  operand := walking.operand.unary walking.expression
  body := Parse.walks_statements walking (some .rightBrace)
  branch := Parse.walks_branchStatement walking

/-- The parsers of any number of nesting levels walk over what they read. -/
theorem within_walking (levels : Nat) : (within levels).Walking := by
  induction levels with
  | zero =>
      exact refusing_walking
  | succ levels hypothesis =>
      exact hypothesis.around

end NestedParsers

namespace Program

variable {tokens : List Token}
variable {program : Program}

/--
The trace of a program that is parsed is what a walk over it notes, and behind
that the number of its statements.  The walk comes to the first end token.
-/
theorem events_eq_walk
    (parsed : ofTokens tokens = .ok program) :
    (parse tokens).events.toList =
        (program.walk tokens).events ++
          [.parsed program.statements.length] ∧
      (program.walk tokens).ahead =
        tokens.dropWhile fun token => token.kind != .endOfInput := by
  obtain ⟨final, run, events⟩ := exists_run_of_ofTokens parsed
  have walked : final.toWalk = program.walk tokens :=
    Parse.walks_statements (NestedParsers.within_walking nestingLimit) none _
      _ _ _ rfl run
  obtain ⟨taken, shape, sequence⟩ :=
    Parse.ensures_statements (NestedParsers.within_sound nestingLimit) none
      tokens _ _ _ rfl run
  have noEnd : ∀ token ∈ taken, (token.kind != .endOfInput) = true := by
    simpa using sequence.derived.kind_ne_endOfInput
  have reached :
      (tokens.dropWhile fun token => token.kind != .endOfInput) =
        final.rest := by
    rw [shape, List.dropWhile_append_of_pos noEnd,
      sequence.closes.dropWhile_eq_self]
  rw [events, ← walked, reached]
  exact ⟨Array.toList_push, rfl⟩

/-- A conditional statement behind an `else` is not met, its parts are. -/
theorem events_of_chained_conditions :
    (parse
      [⟨.semicolon, ";", ⟨1, 1⟩⟩, ⟨.keyword .ifWord, "if", ⟨1, 2⟩⟩,
        ⟨.identifier, "a", ⟨1, 5⟩⟩, ⟨.leftBrace, "\x7b", ⟨1, 7⟩⟩,
        ⟨.rightBrace, "\x7d", ⟨1, 8⟩⟩, ⟨.keyword .elseWord, "else", ⟨1, 10⟩⟩,
        ⟨.keyword .ifWord, "if", ⟨1, 15⟩⟩, ⟨.minus, "-", ⟨1, 18⟩⟩,
        ⟨.leftParenthesis, "(", ⟨1, 19⟩⟩, ⟨.identifier, "b", ⟨1, 20⟩⟩,
        ⟨.rightParenthesis, ")", ⟨1, 21⟩⟩, ⟨.leftBrace, "\x7b", ⟨1, 23⟩⟩,
        ⟨.identifier, "c", ⟨1, 24⟩⟩, ⟨.rightBrace, "\x7d", ⟨1, 25⟩⟩,
        ⟨.endOfInput, "", ⟨1, 26⟩⟩]).events.toList =
      [.statement ⟨1, 2⟩ "if", .primary ⟨1, 5⟩ .identifier,
        .primary ⟨1, 19⟩ .leftParenthesis, .primary ⟨1, 20⟩ .identifier,
        .statement ⟨1, 24⟩ "c", .primary ⟨1, 24⟩ .identifier, .parsed 1] :=
  (@events_eq_walk
    [⟨.semicolon, ";", ⟨1, 1⟩⟩, ⟨.keyword .ifWord, "if", ⟨1, 2⟩⟩,
      ⟨.identifier, "a", ⟨1, 5⟩⟩, ⟨.leftBrace, "\x7b", ⟨1, 7⟩⟩,
      ⟨.rightBrace, "\x7d", ⟨1, 8⟩⟩, ⟨.keyword .elseWord, "else", ⟨1, 10⟩⟩,
      ⟨.keyword .ifWord, "if", ⟨1, 15⟩⟩, ⟨.minus, "-", ⟨1, 18⟩⟩,
      ⟨.leftParenthesis, "(", ⟨1, 19⟩⟩, ⟨.identifier, "b", ⟨1, 20⟩⟩,
      ⟨.rightParenthesis, ")", ⟨1, 21⟩⟩, ⟨.leftBrace, "\x7b", ⟨1, 23⟩⟩,
      ⟨.identifier, "c", ⟨1, 24⟩⟩, ⟨.rightBrace, "\x7d", ⟨1, 25⟩⟩,
      ⟨.endOfInput, "", ⟨1, 26⟩⟩]
    ⟨[.branch ⟨1, 2⟩ (.reference ⟨1, 5⟩ "a") []
        (some
          [.branch ⟨1, 15⟩
            (.unary ⟨1, 18⟩ .negate
              (.group ⟨1, 19⟩ (.reference ⟨1, 20⟩ "b")))
            [.evaluate (.reference ⟨1, 24⟩ "c")] none])]⟩
    rfl).1

end Program

end OwlScript
