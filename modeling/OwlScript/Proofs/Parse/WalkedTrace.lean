import OwlScript.Proofs.Parse.ProgramSoundness
import OwlScript.Proofs.Program.TreeWalk

namespace OwlScript

/-!
# The trace of the parser is a walk

The parser notes an event before it knows what comes of the token, and it
builds its tree from the leaves.  Still, where it comes to a program its trace
is what a walk over the program notes.  This is shown along the steps of the
parsers: whatever one of them reads, it leaves the tokens and the events as a
walk over that would.  Which token a node begins with and that every statement
takes a token is known from the grammar.
-/

/-- The tokens left and the events so far, as those of a walk. -/
def ParseState.toWalk (state : ParseState) : Walk :=
  ⟨state.rest, state.events.toList⟩

namespace Parse

variable {α β : Type}

/--
Wherever the parser starts as the walk does and reads a value, the condition
holds of the value and of how far the walk has come then.
-/
def Walks
    (start : Walk)
    (parser : Parse α)
    (condition : α → Walk → Prop) : Prop :=
  ∀ (state : ParseState) (value : α) (final : ParseState),
    state.toWalk = start →
      parser state = .ok value final → condition value final.toWalk

namespace Walks

variable {start : Walk}
variable {parser : Parse α} {next : α → Parse β}
variable {condition : α → Walk → Prop} {goal : β → Walk → Prop}

/-- A value that is given at once leaves the walk where it is. -/
theorem pure {value : α} (holds : condition value start) :
    Walks start (Pure.pure value) condition := by
  intro state read final here run
  cases run
  rwa [here]

/-- A parser that throws has nothing to walk over. -/
theorem throw (fault : Diagnostic) :
    Walks start (MonadExcept.throw fault) condition := by
  intro state value final here run
  cases run

/-- What is read in two steps is walked over in two steps. -/
theorem bind
    (first : Walks start parser condition)
    (second :
      ∀ value middle, condition value middle →
        Walks middle (next value) goal) :
    Walks start (parser >>= next) goal := by
  intro state result final here run
  rw [bind_apply] at run
  cases firstRun : parser state with
  | error fault between =>
      rw [firstRun] at run
      cases run
  | ok value between =>
      rw [firstRun] at run
      have reached := first state value between here firstRun
      exact second value between.toWalk reached between result final rfl run

/-- A walk that meets a condition meets every weaker one. -/
theorem weaken
    {weaker : α → Walk → Prop}
    (walks : Walks start parser condition)
    (weakens : ∀ value walk, condition value walk → weaker value walk) :
    Walks start parser weaker :=
  fun state value final here run =>
    weakens value final.toWalk (walks state value final here run)

/-- A step that can read only one value and come only so far. -/
theorem step
    {value : α}
    {middle : Walk}
    (first : Walks start parser fun read walk => read = value ∧ walk = middle)
    (second : Walks middle (next value) goal) :
    Walks start (parser >>= next) goal := by
  refine first.bind fun read walk reached => ?_
  rw [reached.1, reached.2]
  exact second

/-- A step that comes only so far, whatever it reads. -/
theorem move
    {middle : Walk}
    (first : Walks start parser fun _ walk => walk = middle)
    (second : ∀ value, Walks middle (next value) goal) :
    Walks start (parser >>= next) goal := by
  refine first.bind fun read walk reached => ?_
  rw [reached]
  exact second read

/-- What is ensured of the tokens taken holds along with the condition. -/
theorem ensuring
    {ensured : List Token → α → List Token → Prop}
    (walks : Walks start parser condition)
    (ensures : Ensures parser start.ahead ensured) :
    Walks start parser fun value last =>
      condition value last ∧
        ∃ taken, start.ahead = taken ++ last.ahead ∧
          ensured taken value last.ahead := by
  intro state value final here run
  refine ⟨walks state value final here run, ?_⟩
  have tokensHere : state.rest = start.ahead := by
    rw [← here]
    rfl
  exact ensures state value final tokensHere run

end Walks

section Steps

variable {start : Walk}

/-- The next token is the one the walk has ahead. -/
theorem walks_peek? (start : Walk) :
    Walks start peek? fun next walk =>
      next = start.ahead.head? ∧ walk = start := by
  rintro state value final rfl run
  cases run
  exact ⟨rfl, rfl⟩

/-- The tokens left are those the walk has ahead. -/
theorem walks_remaining (start : Walk) :
    Walks start remaining fun tokens walk =>
      tokens = start.ahead ∧ walk = start := by
  rintro state value final rfl run
  cases run
  exact ⟨rfl, rfl⟩

/-- Asking for the place leaves the walk where it is. -/
theorem walks_place (start : Walk) :
    Walks start place fun _ walk => walk = start := by
  rintro ⟨_ | ⟨token, rest⟩, ending, events⟩ value final rfl run
  · cases run
    rfl
  · cases run
    rfl

/-- Taking a token passes it. -/
theorem walks_advance (start : Walk) :
    Walks start advance fun _ walk => walk = start.pass := by
  rintro state value final rfl run
  cases run
  rfl

/-- Recording an event notes it. -/
theorem walks_record (event : ParseEvent) (start : Walk) :
    Walks start (record event) fun _ walk => walk = start.note event := by
  rintro state value final rfl run
  cases run
  simp [ParseState.toWalk, Walk.note]

/-- Skipping semicolons passes them. -/
theorem walks_skipSemicolons (start : Walk) :
    Walks start skipSemicolons fun _ walk => walk = start.passSemicolons := by
  rintro state value final rfl run
  cases run
  rfl

/-- A parser that refuses a nesting level has nothing to walk over. -/
theorem walks_refuseDepth (condition : α → Walk → Prop) :
    Walks start refuseDepth condition := by
  rintro ⟨_ | ⟨token, rest⟩, ending, events⟩ value final here run
  · cases run
  · cases run

/-- The kind of the next token is compared as on the walk. -/
theorem walks_nextIs (kind : TokenKind) (start : Walk) :
    Walks start (nextIs kind) fun isNext walk =>
      isNext = start.nextIs kind ∧ walk = start := by
  refine (walks_peek? start).step ?_
  cases ahead : start.ahead with
  | nil =>
      exact .pure ⟨by simp [Walk.nextIs, ahead], rfl⟩
  | cons token rest =>
      exact .pure ⟨by simp [Walk.nextIs, ahead], rfl⟩

/-- Comparing the kind of the token behind it leaves the walk where it is. -/
theorem walks_secondIs (kind : TokenKind) (start : Walk) :
    Walks start (secondIs kind) fun _ walk => walk = start := by
  rintro ⟨rest, ending, events⟩ value final rfl run
  rcases rest with _ | ⟨first, _ | ⟨second, rest⟩⟩
  · cases run
    rfl
  · cases run
    rfl
  · cases run
    rfl

/-- A token that is accepted is passed, and no other. -/
theorem walks_accept (kind : TokenKind) (start : Walk) :
    Walks start (accept kind) fun accepted walk =>
      accepted = start.nextIs kind ∧
        walk = if start.nextIs kind then start.pass else start := by
  refine (walks_nextIs kind start).step ?_
  cases start.nextIs kind with
  | true =>
      exact (walks_advance start).move fun _ => .pure ⟨rfl, rfl⟩
  | false =>
      exact .pure ⟨rfl, rfl⟩

/-- A token that is asked for is passed. -/
theorem walks_expect (kind : TokenKind) (fault : SyntaxFault) (start : Walk) :
    Walks start (expect kind fault) fun _ walk => walk = start.pass := by
  refine (walks_peek? start).step ?_
  cases start.ahead with
  | nil =>
      intro state value final here run
      cases run
  | cons token rest =>
      dsimp only [List.head?_cons]
      split
      · exact (walks_advance start).move fun _ => .pure rfl
      · split
        · exact .throw _
        · exact .throw _

/-- An operator that is accepted is passed. -/
theorem walks_acceptOperator (level : OperatorLevel) (start : Walk) :
    Walks start (acceptOperator level) fun operator walk =>
      walk = if operator.isSome then start.pass else start := by
  refine (walks_peek? start).step ?_
  cases start.ahead with
  | nil =>
      exact .pure rfl
  | cons token rest =>
      dsimp only [List.head?_cons]
      split
      · exact (walks_advance start).move fun _ => .pure rfl
      · exact .pure rfl

/-- Giving an expression a height leaves the walk where it is. -/
theorem walks_sized
    (expression : Expression)
    (height : Nat)
    (start : Walk) :
    Walks start (sized expression height) fun read walk =>
      read.expression = expression ∧ walk = start := by
  unfold sized
  split
  · exact .throw _
  · exact .pure ⟨rfl, rfl⟩

end Steps

/-- The parser leaves everything as a walk over the expression read does. -/
def WalksExpressions (parser : Parse SizedExpression) : Prop :=
  ∀ start, Walks start parser fun read walk =>
    walk = read.expression.walk start

section Expressions

variable {operand inside : Parse SizedExpression}

/-- A leaf passes its token. -/
theorem walks_leaf (expression : Expression) (start : Walk) :
    Walks start (leaf expression) fun read walk =>
      read.expression = expression ∧ walk = start.pass :=
  (walks_advance start).move fun _ => walks_sized expression 1 start.pass

/-- The operand read so far has been walked over, and so is what is joined. -/
theorem walks_chainFrom
    (walks : WalksExpressions operand)
    (level : OperatorLevel)
    (rounds : List Token)
    (start : Walk)
    (left : SizedExpression) :
    Walks (left.expression.walk start) (chainFrom level operand rounds left)
      fun read walk => walk = read.expression.walk start := by
  induction rounds generalizing left with
  | nil =>
      exact .pure rfl
  | cons round rounds hypothesis =>
      refine (walks_acceptOperator level _).bind ?_
      rintro (_ | operator) _ rfl
      · exact .pure rfl
      · refine (walks _).bind ?_
        rintro right _ rfl
        refine (walks_sized _ _ _).bind ?_
        rintro joined _ ⟨same, rfl⟩
        have further := hypothesis joined
        rw [same] at further
        exact further

/-- A chain walks over what it reads if its operands do. -/
theorem WalksExpressions.chain
    (walks : WalksExpressions operand)
    (level : OperatorLevel) :
    WalksExpressions (chain level operand) := by
  intro start
  refine (walks start).bind ?_
  rintro first _ rfl
  refine (walks_remaining _).bind ?_
  rintro rounds _ ⟨-, rfl⟩
  exact walks_chainFrom walks level rounds start first

/-- So does a primary expression if what stands inside does. -/
theorem WalksExpressions.primary
    (walks : WalksExpressions inside) :
    WalksExpressions (primary inside) := by
  intro start
  refine (walks_peek? start).step ?_
  cases ahead : start.ahead with
  | nil =>
      intro state value final here run
      cases run
  | cons token rest =>
      have met (position : Position) :
          start.meetPrimary position =
            start.note (.primary position token.kind) := by
        rw [Walk.meetPrimary, ahead]
      have ofLeaf
          {expression : Expression}
          (isWalk :
            expression.walk start =
              (start.meetPrimary token.position).pass) :
          Walks (start.note (.primary token.position token.kind))
            (leaf expression)
            fun read walk => walk = read.expression.walk start := by
        refine (walks_leaf expression _).weaken ?_
        rintro read walk ⟨same, rfl⟩
        rw [same, isWalk, met]
      refine (walks_record _ start).move fun _ => ?_
      split
      · split
        · exact ofLeaf rfl
        · exact .throw _
      · split
        · exact ofLeaf rfl
        · exact .throw _
      · exact ofLeaf rfl
      · exact ofLeaf rfl
      · exact ofLeaf rfl
      · exact ofLeaf rfl
      · exact ofLeaf rfl
      · refine (walks_advance _).move fun _ => ?_
        refine (walks _).bind ?_
        rintro inner _ rfl
        refine (walks_expect _ _ _).move fun _ => ?_
        refine (walks_sized _ _ _).weaken ?_
        rintro read walk ⟨same, rfl⟩
        rw [same, Expression.walk, met]
      · exact .throw _
      · exact .throw _

/-- So does a unary expression if its operand does. -/
theorem WalksExpressions.unary
    (operandWalks : WalksExpressions operand)
    (insideWalks : WalksExpressions inside) :
    WalksExpressions (unary operand inside) := by
  intro start
  refine (walks_peek? start).step ?_
  cases start.ahead.head? with
  | none =>
      exact insideWalks.primary start
  | some token =>
      dsimp only
      split
      · exact insideWalks.primary start
      · refine (walks_advance start).move fun _ => ?_
        refine (operandWalks start.pass).bind ?_
        rintro inner _ rfl
        refine (walks_sized _ _ _).weaken ?_
        rintro read walk ⟨same, rfl⟩
        rw [same, Expression.walk]

/-- So does the tower of all levels. -/
theorem WalksExpressions.overAllLevels
    (walks : WalksExpressions operand) :
    WalksExpressions (overAllLevels operand) :=
  (((((walks.chain _).chain _).chain _).chain _).chain _).chain _

end Expressions

end Parse

end OwlScript
