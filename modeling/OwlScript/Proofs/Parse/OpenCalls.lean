import OwlScript.Proofs.Parse.DescentPrograms

namespace OwlScript

/-!
# Open calls and the height kept

However a parser by index ends, as many calls are open as before, and the
count of them was not to be taken below zero.  The height kept belongs to the
expression given last.  It is overwritten by every expression inside, so that a
chain has to take down the height of its left operand before it reads the right
one.

Nothing is assumed here about the slice, the index, and how many calls are
open, nor about how many of them can be made.
-/

/--
A parser ends with the slice and the open calls as they were, and not because
the count was to go below zero.  What it gives stands to the height kept as
required.
-/
inductive Settles
    {α : Type}
    (kept : α → Nat → Prop)
    (before : Descent) :
    EStateM.Result Stop Descent α → Prop where
  | ok
      {value : α}
      {after : Descent}
      (isKept : kept value after.height)
      (keeps : before.Keeps after) :
      Settles kept before (.ok value after)
  | error
      {stop : Stop}
      {after : Descent}
      (notBelow : stop ≠ .belowZero)
      (keeps : before.Keeps after) :
      Settles kept before (.error stop after)

/-- The height is the one of the expression, and it is allowed. -/
def Expression.IsMeasured (expression : Expression) (height : Nat) : Prop :=
  height = expression.height ∧ height ≤ nestingLimit

namespace Descend

/-- From every descent, the parser settles. -/
def Settled {α : Type} (kept : α → Nat → Prop) (descend : Descend α) : Prop :=
  ∀ descent, Settles kept descent (descend descent)

/-- The height kept is always the one of the expression given. -/
abbrev Measures (descend : Descend Expression) : Prop :=
  Settled Expression.IsMeasured descend

/-- As many calls are open as before, whatever is given at whatever height. -/
abbrev Balanced {α : Type} (descend : Descend α) : Prop :=
  Settled (fun _ _ => True) descend

end Descend

section Rules

open Descend

variable {α β : Type}
variable {kept : α → Nat → Prop}
variable {goal : β → Nat → Prop}
variable {descent before : Descent}
variable {descend : Descend α}
variable {next : α → Descend β}

/-- What was kept up to here is kept from further back. -/
theorem Settles.from
    {result : EStateM.Result Stop Descent α}
    (keeps : before.Keeps descent)
    (settles : Settles kept descent result) :
    Settles kept before result := by
  cases settles with
  | ok isKept further =>
      exact .ok isKept (keeps.trans further)
  | error notBelow further =>
      exact .error notBelow (keeps.trans further)

/-- Nothing need be required of the height kept. -/
theorem Settles.anyHeight
    {result : EStateM.Result Stop Descent α}
    (settles : Settles kept descent result) :
    Settles (fun _ _ => True) descent result := by
  cases settles with
  | ok isKept keeps =>
      exact .ok trivial keeps
  | error notBelow keeps =>
      exact .error notBelow keeps

/-- To stop with a fault is no matter of the count. -/
theorem Settles.report
    {fault : Diagnostic} :
    Settles kept descent (report fault descent) := by
  refine .error ?_ (.refl descent)
  intro isBelow
  cases isBelow

/-- Leaving the slice settles. -/
theorem Settles.outsideSlice :
    Settles kept descent (.error .outsideSlice descent) := by
  refine .error ?_ (.refl descent)
  intro isBelow
  cases isBelow

/-- Running out of rounds settles. -/
theorem Settles.unfinished :
    Settles kept descent (.error .unfinished descent) := by
  refine .error ?_ (.refl descent)
  intro isBelow
  cases isBelow

/-- Steps that settle do so one behind the other. -/
theorem Settles.bind
    (first : Settles kept descent (descend descent))
    (second :
      ∀ ⦃value after⦄,
        kept value after.height → Settles goal after (next value after)) :
    Settles goal descent ((descend >>= next) descent) := by
  rw [bind_apply]
  generalize descend descent = result at first
  cases first with
  | ok isKept keeps =>
      exact (second isKept).from keeps
  | error notBelow keeps =>
      exact .error notBelow keeps

/-- A call that is counted while it is open settles if what it does settles. -/
theorem Settles.nested
    (settles : Settles kept descent.deeper (descend descent.deeper)) :
    Settles kept descent (nested descend descent) := by
  rcases Nat.lt_or_ge descent.depth nestingLimit with below | beyond
  · rw [nested_of_lt below, followedBy]
    generalize descend descent.deeper = result at settles
    cases settles with
    | ok isKept keeps =>
        dsimp only
        rw [leave_of_keeps keeps]
        exact .ok isKept keeps.left
    | error notBelow keeps =>
        dsimp only
        rw [leave_of_keeps keeps]
        exact .error notBelow keeps.left
  · rw [nested_of_le beyond]
    exact .report

namespace Descend

/-- A parser that settles leaves as many calls open as before. -/
theorem Settled.balanced (settled : Settled kept descend) : Balanced descend :=
  fun descent => (settled descent).anyHeight

/-- A nested call leaves what it counted, however the parser inside ends. -/
theorem Settled.nested (settled : Settled kept descend) :
    Settled kept (nested descend) :=
  fun descent => (settled descent.deeper).nested

namespace Balanced

/-- A value that is given at once opens no call. -/
theorem pure (value : α) : Balanced (pure value) :=
  fun descent => .ok trivial (.refl descent)

/-- Running out of rounds opens no call. -/
theorem unfinished : Balanced (throw .unfinished : Descend α) :=
  fun _ => .unfinished

/-- Two balanced steps are balanced one behind the other. -/
theorem bind
    (first : Balanced descend)
    (second : ∀ value, Balanced (next value)) :
    Balanced (descend >>= next) :=
  fun descent => (first descent).bind fun value after _ => second value after

/-- Looking at the descent opens no call. -/
theorem get_bind
    {next : Descent → Descend β}
    (second : ∀ descent, Balanced (next descent)) :
    Balanced (get >>= next) :=
  fun descent => second descent descent

/-- A choice between balanced parsers is balanced. -/
theorem ite
    {condition : Prop}
    [Decidable condition]
    {descend other : Descend α}
    (whenTrue : Balanced descend)
    (whenFalse : Balanced other) :
    Balanced (if condition then descend else other) := by
  split
  · exact whenTrue
  · exact whenFalse

end Balanced

end Descend

end Rules

/-! ### Steps that leave the height as it is -/

section Steps

open Descend

/-- Giving the token behind leaves the height kept. -/
theorem settles_previous (descent : Descent) :
    Settles (fun _ height => height = descent.height) descent
      (previous descent) := by
  rw [previous, get_bind_apply]
  cases descent.slice[descent.current - 1]? with
  | none =>
      exact .outsideSlice
  | some token =>
      exact .ok rfl (.refl descent)

/-- Taking a token leaves the height kept. -/
theorem settles_advance (descent : Descent) :
    Settles (fun _ height => height = descent.height) descent
      (advance descent) := by
  rw [advance_apply]
  split
  · exact settles_previous descent
  · exact (settles_previous descent.moved).from (.moved descent)

/-- Accepting a token leaves the height kept. -/
theorem settles_accept (kind : TokenKind) (descent : Descent) :
    Settles (fun _ height => height = descent.height) descent
      (accept kind descent) := by
  rw [accept, bind_apply, check_apply]
  dsimp only
  split
  · refine (settles_advance descent).bind fun _ after same => ?_
    exact .ok same (.refl after)
  · exact .ok rfl (.refl descent)

/-- Asking for a token leaves the height kept. -/
theorem settles_expect
    (kind : TokenKind)
    (fault : SyntaxFault)
    (descent : Descent) :
    Settles (fun _ height => height = descent.height) descent
      (expect kind fault descent) := by
  rw [expect, bind_apply, check_apply]
  dsimp only
  split
  · exact settles_advance descent
  · rw [bind_apply, peek?_apply]
    cases descent.next? with
    | none =>
        exact .report
    | some token =>
        dsimp only
        split
        · exact .report
        · exact .report

/-- Accepting a binary operator leaves the height kept. -/
theorem settles_acceptOperator
    (level : OperatorLevel)
    (descent : Descent) :
    Settles (fun _ height => height = descent.height) descent
      (acceptOperator level descent) := by
  induction level generalizing descent with
  | nil =>
      exact .ok rfl (.refl descent)
  | cons pair others hypothesis =>
      obtain ⟨kind, operator⟩ := pair
      refine (settles_accept kind descent).bind fun found after same => ?_
      cases found with
      | true =>
          exact .ok same (.refl after)
      | false =>
          rw [← same]
          exact hypothesis after

/-- Accepting a unary operator leaves the height kept. -/
theorem settles_acceptUnary (descent : Descent) :
    Settles (fun _ height => height = descent.height) descent
      (acceptUnary descent) := by
  refine (settles_accept .minus descent).bind fun isMinus after same => ?_
  rw [← same]
  cases isMinus with
  | true =>
      exact .ok rfl (.refl after)
  | false =>
      refine (settles_accept .bang after).bind fun isBang later same => ?_
      rw [← same]
      cases isBang with
      | true =>
          exact .ok rfl (.refl later)
      | false =>
          refine (settles_accept _ later).bind fun isNot last same => ?_
          cases isNot with
          | true =>
              exact .ok same (.refl last)
          | false =>
              exact .ok same (.refl last)

/-- Taking a token opens no call. -/
theorem balanced_advance : Balanced advance :=
  fun descent => (settles_advance descent).anyHeight

/-- Accepting a token opens no call. -/
theorem balanced_accept (kind : TokenKind) : Balanced (accept kind) :=
  fun descent => (settles_accept kind descent).anyHeight

/-- Asking for a token opens no call. -/
theorem balanced_expect (kind : TokenKind) (fault : SyntaxFault) :
    Balanced (expect kind fault) :=
  fun descent => (settles_expect kind fault descent).anyHeight

/-- Looking at the next token opens no call. -/
theorem balanced_peek? : Balanced peek? :=
  fun descent => .ok trivial (.refl descent)

/-- Checking the kind of the next token opens no call. -/
theorem balanced_check (kind : TokenKind) : Balanced (check kind) := by
  intro descent
  rw [check_apply]
  exact .ok trivial (.refl descent)

/-- Checking the kind of the token behind it opens no call. -/
theorem balanced_checkNext (kind : TokenKind) :
    Balanced (checkNext kind) := by
  intro descent
  rw [checkNext_apply]
  exact .ok trivial (.refl descent)

/-- Recording an event opens no call. -/
theorem balanced_record (event : ParseEvent) : Balanced (record event) :=
  fun _ => .ok trivial ⟨rfl, rfl, Nat.le_refl _⟩

/-- Looking for the end of a sequence opens no call. -/
theorem balanced_atClosing (closing : Option TokenKind) :
    Balanced (atClosing closing) := by
  intro descent
  rw [atClosing_apply]
  exact .ok trivial (.refl descent)

/-- Skipping semicolons opens no call, in however many rounds. -/
theorem balanced_skipSemicolonsFrom (rounds : Nat) :
    Balanced (skipSemicolonsFrom rounds) := by
  induction rounds with
  | zero =>
      exact .unfinished
  | succ rounds hypothesis =>
      refine (balanced_accept .semicolon).bind fun isSemicolon => ?_
      exact .ite hypothesis (.pure ())

/-- Skipping all semicolons opens no call. -/
theorem balanced_skipSemicolons : Balanced skipSemicolons :=
  .get_bind fun descent => balanced_skipSemicolonsFrom descent.rounds

end Steps

/-! ### Expressions -/

section Expressions

open Descend

variable {descent : Descent}
variable {operand inside : Descend Expression}

/-- An expression is kept with its height, or refused if that is too great. -/
theorem settles_sized
    {expression : Expression}
    {height : Nat}
    (same : height = expression.height)
    (descent : Descent) :
    Settles Expression.IsMeasured descent
      (sized expression height descent) := by
  unfold sized
  by_cases isTooHigh : nestingLimit < height
  · rw [if_pos isTooHigh]
    exact .report
  · rw [if_neg isTooHigh]
    exact .ok ⟨same, Nat.not_lt.1 isTooHigh⟩ ⟨rfl, rfl, Nat.le_refl _⟩

/--
A chain that goes on from an expression whose height is the one kept ends with
such an expression.  The height of the left operand is the one kept until the
right operand is read.
-/
theorem settles_chainFrom
    (measures : Measures operand)
    (level : OperatorLevel)
    (rounds : Nat)
    {left : Expression}
    (isMeasured : left.IsMeasured descent.height) :
    Settles Expression.IsMeasured descent
      (chainFrom level operand rounds left descent) := by
  induction rounds generalizing descent left with
  | zero =>
      exact .unfinished
  | succ rounds hypothesis =>
      refine (settles_acceptOperator level descent).bind ?_
      intro accepted after same
      rw [← same] at isMeasured
      cases accepted with
      | none =>
          exact .ok isMeasured (.refl after)
      | some operator =>
          dsimp only
          rw [get_bind_apply]
          -- From here on the height kept is no longer the one of `left`, which
          -- is known only by what was taken down.
          refine (measures after).bind fun right behind rightMeasured => ?_
          rw [get_bind_apply]
          have joinedHeight :
              max after.height behind.height + 1 =
                (Expression.binary operator left right).height := by
            rw [isMeasured.1, rightMeasured.1, Expression.height]
          refine (settles_sized joinedHeight behind).bind ?_
          intro joined last joinedMeasured
          exact hypothesis joinedMeasured

/-- A chain keeps the height of what it gives if its operands do. -/
theorem Descend.Settled.chain
    (measures : Measures operand)
    (level : OperatorLevel) :
    Measures (chain level operand) := by
  intro descent
  refine (measures descent).bind fun first after firstMeasured => ?_
  rw [get_bind_apply]
  exact settles_chainFrom measures level after.rounds firstMeasured

/-- An expression without operands has height one. -/
theorem settles_leaf
    {expression : Expression}
    (isLeaf : expression.height = 1)
    (descent : Descent) :
    Settles Expression.IsMeasured descent (leaf expression descent) :=
  (settles_advance descent).bind fun _ after _ =>
    settles_sized isLeaf.symm after

/-- A primary expression keeps its height if what stands inside does. -/
theorem Descend.Settled.primary (measures : Measures inside) :
    Measures (primary inside) := by
  intro descent
  refine (balanced_peek? descent).bind fun next behind _ => ?_
  cases next with
  | none =>
      exact .report
  | some token =>
      obtain ⟨kind, lexeme, position⟩ := token
      refine (balanced_record _ behind).bind fun _ after _ => ?_
      cases kind with
      | integer =>
          dsimp only
          cases Number.readInteger lexeme with
          | none =>
              exact .report
          | some number =>
              exact settles_leaf rfl after
      | float =>
          dsimp only
          cases Number.readFloat lexeme with
          | none =>
              exact .report
          | some number =>
              exact settles_leaf rfl after
      | string =>
          exact settles_leaf rfl after
      | identifier =>
          exact settles_leaf rfl after
      | keyword word =>
          cases word with
          | trueWord =>
              exact settles_leaf rfl after
          | falseWord =>
              exact settles_leaf rfl after
          | nilWord =>
              exact settles_leaf rfl after
          | _ =>
              exact .report
      | leftParenthesis =>
          refine (settles_advance after).bind fun _ opened _ => ?_
          refine (measures opened).bind fun inner behind innerMeasured => ?_
          rw [get_bind_apply]
          -- The height is taken down here, so the parenthesis may follow.
          refine (settles_expect _ _ behind).bind fun _ closed _ => ?_
          have groupHeight :
              behind.height + 1 =
                (Expression.group position inner).height := by
            rw [innerMeasured.1, Expression.height]
          exact settles_sized groupHeight closed
      | _ =>
          exact .report

/-- A unary expression keeps its height if its operand does. -/
theorem Descend.Settled.unary
    (operandMeasures : Measures operand)
    (insideMeasures : Measures inside) :
    Measures (unary operand inside) := by
  intro descent
  refine (settles_acceptUnary descent).bind fun accepted after _ => ?_
  cases accepted with
  | none =>
      exact insideMeasures.primary after
  | some operator =>
      refine (settles_previous after).bind fun sign behind _ => ?_
      refine (operandMeasures behind).bind fun inner last innerMeasured => ?_
      rw [get_bind_apply]
      have signedHeight :
          last.height + 1 =
            (Expression.unary sign.position operator inner).height := by
        rw [innerMeasured.1, Expression.height]
      exact settles_sized signedHeight last

/-- The tower keeps the height at every level if its operands do. -/
theorem Descend.Settled.upTo
    (measures : Measures operand)
    (level : Nat) :
    Measures (upTo operand level) := by
  induction level with
  | zero =>
      exact measures
  | succ level hypothesis =>
      exact hypothesis.chain (OperatorLevel.above level)

/-- So does the whole tower. -/
theorem Descend.Settled.overAllLevels (measures : Measures operand) :
    Measures (overAllLevels operand) := by
  rw [overAllLevels_eq_upTo]
  exact measures.upTo 6

end Expressions

/-! ### Statements -/

section Statements

open Descend

variable {descents : Descents}

/-- Whatever opens a level leaves as many calls open as before. -/
structure Descents.Settled (descents : Descents) : Prop where
  expression : Measures descents.expression
  operand : Measures descents.operand
  body : Balanced descents.body
  branch : Balanced descents.branch

namespace Descents.Settled

/-- A block leaves the calls that it makes. -/
theorem block (settled : descents.Settled) : Balanced (block descents) := by
  refine (balanced_expect _ _).bind fun opening => ?_
  refine settled.body.bind fun body => ?_
  exact (balanced_expect _ _).bind fun closing => .pure body

/-- A `let` statement leaves the calls that it makes. -/
theorem bindStatement (settled : descents.Settled) :
    Balanced (bindStatement descents) := by
  refine balanced_advance.bind fun keyword => ?_
  refine (balanced_expect _ _).bind fun name => ?_
  refine (balanced_expect _ _).bind fun sign => ?_
  exact settled.expression.balanced.bind fun value => .pure _

/-- An assignment leaves the calls that it makes. -/
theorem assignStatement (settled : descents.Settled) :
    Balanced (assignStatement descents) := by
  refine balanced_advance.bind fun target => ?_
  refine balanced_advance.bind fun sign => ?_
  exact settled.expression.balanced.bind fun value => .pure _

/--
A row of arguments leaves the calls that it makes, in any number of rounds.
-/
theorem argumentsFrom
    (settled : descents.Settled)
    (rounds : Nat)
    (found : List Expression) :
    Balanced (argumentsFrom descents rounds found) := by
  induction rounds generalizing found with
  | zero =>
      exact .unfinished
  | succ rounds hypothesis =>
      refine (balanced_accept .comma).bind fun isComma => ?_
      refine .ite ?_ (.pure found.reverse)
      exact settled.expression.balanced.bind fun argument =>
        hypothesis (argument :: found)

/-- A `print` statement leaves the calls that it makes. -/
theorem printStatement (settled : descents.Settled) :
    Balanced (printStatement descents) := by
  refine balanced_advance.bind fun keyword => ?_
  refine settled.expression.balanced.bind fun first => ?_
  refine .get_bind fun descent => ?_
  exact (settled.argumentsFrom descent.rounds [first]).bind fun arguments =>
    .pure _

/-- What stands behind an `else` leaves the calls that it makes. -/
theorem elseBody (settled : descents.Settled) :
    Balanced (elseBody descents) := by
  refine (balanced_accept _).bind fun isElse => .ite ?_ (.pure none)
  refine (balanced_check _).bind fun isIf => .ite ?_ ?_
  · exact settled.branch.bind fun branch => .pure _
  · exact settled.block.bind fun body => .pure _

/-- A conditional statement leaves the calls that it makes. -/
theorem branchStatement (settled : descents.Settled) :
    Balanced (branchStatement descents) := by
  refine balanced_advance.bind fun keyword => ?_
  refine settled.expression.balanced.bind fun condition => ?_
  refine settled.block.bind fun thenBody => ?_
  exact settled.elseBody.bind fun otherwise => .pure _

/-- A loop leaves the calls that it makes. -/
theorem loopStatement (settled : descents.Settled) :
    Balanced (loopStatement descents) := by
  refine balanced_advance.bind fun keyword => ?_
  refine settled.expression.balanced.bind fun condition => ?_
  exact settled.block.bind fun body => .pure _

/-- A statement that is an expression leaves the calls that it makes. -/
theorem evaluateStatement (settled : descents.Settled) :
    Balanced (evaluateStatement descents) :=
  settled.expression.balanced.bind fun value =>
    .pure (Statement.evaluate value)

/-- A statement of any form leaves the calls that it makes. -/
theorem statement (settled : descents.Settled) :
    Balanced (statement descents) := by
  refine balanced_peek?.bind fun next => ?_
  cases next with
  | none =>
      exact settled.evaluateStatement
  | some token =>
      refine (balanced_record _).bind fun recorded => ?_
      cases token.kind with
      | keyword word =>
          cases word with
          | letWord =>
              exact settled.bindStatement
          | printWord =>
              exact settled.printStatement
          | ifWord =>
              exact settled.branchStatement
          | whileWord =>
              exact settled.loopStatement
          | _ =>
              exact settled.evaluateStatement
      | identifier =>
          refine (balanced_checkNext .assign).bind fun isAssign => ?_
          exact .ite settled.assignStatement settled.evaluateStatement
      | _ =>
          exact settled.evaluateStatement

/--
A row of statements leaves the calls that it makes, in any number of rounds.
-/
theorem statementsFrom
    (settled : descents.Settled)
    (closing : Option TokenKind)
    (rounds : Nat)
    (found : List Statement) :
    Balanced (statementsFrom descents closing rounds found) := by
  induction rounds generalizing found with
  | zero =>
      exact .unfinished
  | succ rounds hypothesis =>
      refine balanced_skipSemicolons.bind fun skipped => ?_
      refine (balanced_atClosing closing).bind fun isClosing => ?_
      refine .ite (.pure found.reverse) ?_
      exact settled.statement.bind fun next => hypothesis (next :: found)

/-- A sequence of statements leaves the calls that it makes. -/
theorem statements
    (settled : descents.Settled)
    (closing : Option TokenKind) :
    Balanced (statements descents closing) :=
  .get_bind fun descent => settled.statementsFrom closing descent.rounds []

/-- What the parsers one call earlier do inside of their calls. -/
theorem around (settled : descents.Settled) : descents.around.Settled where
  expression :=
    (settled.operand.unary settled.expression).overAllLevels.nested
  operand := (settled.operand.unary settled.expression).nested
  body := (settled.statements (some .rightBrace)).nested
  branch := settled.branchStatement.nested

/-- However many calls can be made, all that are made are left. -/
theorem within (calls : Nat) : (Descents.within calls).Settled := by
  induction calls with
  | zero =>
      exact
        { expression := fun _ => .unfinished
          operand := fun _ => .unfinished
          body := .unfinished
          branch := .unfinished }
  | succ calls hypothesis =>
      exact hypothesis.around

end Descents.Settled

end Statements

end OwlScript
