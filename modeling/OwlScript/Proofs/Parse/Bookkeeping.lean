import OwlScript.Proofs.Parse.OpenCalls

namespace OwlScript

/-!
# The bookkeeping of a descent

Every function of the parser by index can be called from any descent: on any
slice, at any index, with any number of calls open, and whatever height was
kept last.  It leaves as many calls open as it found, and a function for
expressions keeps the height of the expression that it gives.

The count of open calls is changed in two places only: where a call begins and
where it is left.  A watch at both of them, which stops the parser as soon as
more calls are open than are allowed, makes no difference.
-/

/-- What a function of the parser reads. -/
inductive PhraseKind where
  | expression
  | statement
  | sequence
  deriving Repr, DecidableEq

/-- The values that are read as a phrase. -/
def PhraseKind.Value : PhraseKind → Type
  | .expression => Expression
  | .statement => Statement
  | .sequence => List Statement

/-- The functions of the parser by index, by what they read. -/
inductive DescentFunction : PhraseKind → Type where
  /-- An expression of any level, one nesting level deeper. -/
  | expression : DescentFunction .expression
  /-- The operators up to a level; at level zero, only those in front. -/
  | storey (level : Nat) : DescentFunction .expression
  | primary : DescentFunction .expression
  | statement : DescentFunction .statement
  | bindStatement : DescentFunction .statement
  | assignStatement : DescentFunction .statement
  | printStatement : DescentFunction .statement
  | branchStatement : DescentFunction .statement
  | loopStatement : DescentFunction .statement
  | block : DescentFunction .sequence
  | statements (closing : Option TokenKind) : DescentFunction .sequence

namespace DescentFunction

variable {phrase : PhraseKind}

/-- The function, calling the parsers for what opens a nesting level. -/
def calling (descents : Descents) :
    {phrase : PhraseKind} → DescentFunction phrase → Descend phrase.Value
  | _, .expression => descents.expression
  | _, .storey level =>
      Descend.upTo (Descend.unary descents.operand descents.expression) level
  | _, .primary => Descend.primary descents.expression
  | _, .statement => Descend.statement descents
  | _, .bindStatement => Descend.bindStatement descents
  | _, .assignStatement => Descend.assignStatement descents
  | _, .printStatement => Descend.printStatement descents
  | _, .branchStatement => Descend.branchStatement descents
  | _, .loopStatement => Descend.loopStatement descents
  | _, .block => Descend.block descents
  | _, .statements closing => Descend.statements descents closing

/--
What comes of the function on a descent.  As many calls can be made as are not
open yet, and one more: the one that is refused.  A whole slice is read by the
function for statements that none closes, from the first token and with no call
open.
-/
def run (function : DescentFunction phrase) : Descend phrase.Value :=
  fun descent =>
    let calls := nestingLimit - descent.depth + 1
    function.calling (Descents.within calls) descent

/-- Whether the function looks at the next token before it takes one. -/
def looksFirst : DescentFunction phrase → Bool
  | .bindStatement => false
  | .assignStatement => false
  | .printStatement => false
  | .branchStatement => false
  | .loopStatement => false
  | _ => true

/-- A function leaves as many calls open as it found if those it calls do. -/
theorem balanced_calling
    {descents : Descents}
    (settled : descents.Settled)
    (function : DescentFunction phrase) :
    Descend.Balanced (function.calling descents) := by
  cases function with
  | expression =>
      exact settled.expression.balanced
  | storey level =>
      have unary := settled.operand.unary settled.expression
      exact (unary.upTo level).balanced
  | primary =>
      exact settled.expression.primary.balanced
  | statement =>
      exact settled.statement
  | bindStatement =>
      exact settled.bindStatement
  | assignStatement =>
      exact settled.assignStatement
  | printStatement =>
      exact settled.printStatement
  | branchStatement =>
      exact settled.branchStatement
  | loopStatement =>
      exact settled.loopStatement
  | block =>
      exact settled.block
  | statements closing =>
      exact settled.statements closing

/-- The height kept is the one of the expression given. -/
theorem measures_calling
    {descents : Descents}
    (settled : descents.Settled)
    (function : DescentFunction .expression) :
    Descend.Measures (function.calling descents) := by
  cases function with
  | expression =>
      exact settled.expression
  | storey level =>
      exact (settled.operand.unary settled.expression).upTo level
  | primary =>
      exact settled.expression.primary

/-- Every function of the parser leaves each call that it makes. -/
theorem balanced_run (function : DescentFunction phrase) :
    Descend.Balanced function.run :=
  fun descent => function.balanced_calling (.within _) descent

/-- A function for expressions keeps the height of what it gives. -/
theorem measures_run (function : DescentFunction .expression) :
    Descend.Measures function.run :=
  fun descent => function.measures_calling (.within _) descent

end DescentFunction

/-! ### A watch on the open calls -/

namespace Descend

variable {α : Type}

/-- Stops with the alarm if more calls are open than are allowed. -/
def watch (alarm : Stop) : Descend Unit := do
  if nestingLimit < (← get).depth then
    throw alarm

/--
Runs a parser one level deeper, unless the limit is reached, with a watch
behind each change of the number of open calls.
-/
def watchedNested (alarm : Stop) (parser : Descend α) : Descend α := do
  let descent ← get
  if nestingLimit ≤ descent.depth then
    report (tooDeepAt descent.place)
  else
    modify fun descent => { descent with depth := descent.depth + 1 }
    watch alarm
    followedBy parser do
      leave
      watch alarm

/-- While no more calls are open than are allowed, the watch is silent. -/
theorem watch_of_le
    {descent : Descent}
    (allowed : descent.depth ≤ nestingLimit)
    (alarm : Stop) :
    watch alarm descent = .ok () descent := by
  rw [watch, get_bind_apply, if_neg (Nat.not_lt.2 allowed)]
  rfl

/-- A call that is left by what it calls is left with no alarm. -/
theorem followedBy_leave_watch
    {descent : Descent}
    {parser : Descend α}
    (below : descent.depth < nestingLimit)
    (balanced : Balanced parser)
    (alarm : Stop) :
    followedBy parser (leave >>= fun _ => watch alarm) descent.deeper =
      followedBy parser leave descent.deeper := by
  have left
      {after : Descent}
      (keeps : descent.deeper.Keeps after) :
      (leave >>= fun _ => watch alarm) after = leave after := by
    have allowed :
        { after with depth := descent.depth }.depth ≤ nestingLimit :=
      Nat.le_of_lt below
    rw [bind_apply, leave_of_keeps keeps]
    exact watch_of_le allowed alarm
  have settles := balanced descent.deeper
  unfold followedBy
  generalize parser descent.deeper = result at settles
  cases settles with
  | ok _ keeps =>
      dsimp only
      rw [left keeps]
  | error _ keeps =>
      dsimp only
      rw [left keeps]

/-- The watch makes no difference to a call that is left as it was begun. -/
theorem watchedNested_eq
    {parser : Descend α}
    (balanced : Balanced parser)
    (alarm : Stop) :
    watchedNested alarm parser = nested parser := by
  funext descent
  rcases Nat.lt_or_ge descent.depth nestingLimit with below | beyond
  · have counted :
        watchedNested alarm parser descent =
          (watch alarm >>= fun _ =>
            followedBy parser (leave >>= fun _ => watch alarm))
              descent.deeper := by
      rw [watchedNested, get_bind_apply, if_neg (Nat.not_le.2 below)]
      rfl
    -- A call is begun only below the limit, so this one may be open.
    have allowed : descent.deeper.depth ≤ nestingLimit := below
    rw [counted, bind_apply, watch_of_le allowed, nested_of_lt below]
    exact followedBy_leave_watch below balanced alarm
  · rw [watchedNested, get_bind_apply, if_pos beyond, nested_of_le beyond]

end Descend

namespace Descents

/-- The parsers that call the given ones, by any way to make a call. -/
def aroundBy
    (call : {α : Type} → Descend α → Descend α)
    (descents : Descents) : Descents where
  expression :=
    call (.overAllLevels (.unary descents.operand descents.expression))
  operand := call (.unary descents.operand descents.expression)
  body := call (.statements descents (some .rightBrace))
  branch := call (.branchStatement descents)

/-- The parsers that can make the given number of calls, all of them watched. -/
def watched (alarm : Stop) : Nat → Descents
  | 0 => unfinished
  | calls + 1 => aroundBy (Descend.watchedNested alarm) (watched alarm calls)

/-- No alarm is ever raised, so the parsers are the same with the watch. -/
theorem watched_eq_within (alarm : Stop) (calls : Nat) :
    watched alarm calls = within calls := by
  induction calls with
  | zero =>
      rfl
  | succ calls hypothesis =>
      have settled := Settled.within calls
      have unary := settled.operand.unary settled.expression
      have body := settled.statements (some .rightBrace)
      rw [watched, hypothesis, within, aroundBy, around,
        Descend.watchedNested_eq unary.overAllLevels.balanced,
        Descend.watchedNested_eq unary.balanced,
        Descend.watchedNested_eq body,
        Descend.watchedNested_eq settled.branchStatement]

end Descents

/-- What comes of the function if every call that is made is watched. -/
def DescentFunction.runWatched
    {phrase : PhraseKind}
    (alarm : Stop)
    (function : DescentFunction phrase) : Descend phrase.Value :=
  fun descent =>
    let calls := nestingLimit - descent.depth + 1
    function.calling (Descents.watched alarm calls) descent

/-! ### Every function comes to an end -/

/--
A parser gives a value, with the index still in the slice, or stops with a
fault.
-/
inductive Concludes
    {α : Type}
    (before : Descent) :
    EStateM.Result Stop Descent α → Prop where
  | ok
      {value : α}
      {after : Descent}
      (keeps : before.Keeps after)
      (inSlice : after.current ≤ after.slice.length) :
      Concludes before (.ok value after)
  | reported
      {fault : Diagnostic}
      {after : Descent} :
      Concludes before (.error (.reported fault) after)

/-- The index is in a slice with tokens, and the calls open are as many. -/
structure Descent.IsReady (depth : Nat) (descent : Descent) : Prop where
  notEmpty : descent.slice ≠ []
  inSlice : descent.current ≤ descent.slice.length
  atDepth : descent.depth = depth

/-- In calls from the depth, the parser comes to a value or to a fault. -/
def Descend.Concluding
    {α : Type}
    (depth : Nat)
    (descend : Descend α) : Prop :=
  ∀ ⦃descent : Descent⦄, descent.IsReady depth →
    Concludes descent (descend descent)

section Conclusions

open Descend

variable {α β γ : Type}
variable {relates : α → β → Nat → Prop}
variable {depth : Nat}
variable {descent : Descent}
variable {parser : Parse α}
variable {descend : Descend β}

/-- A descent that follows a parser comes to a value or to a fault. -/
theorem Follows.concludes
    {behind : List Token}
    {result : EStateM.Result Diagnostic ParseState α}
    {other : EStateM.Result Stop Descent β}
    (follows : Follows relates behind descent result other) :
    Concludes descent other := by
  cases follows with
  | ok related shows keeps =>
      exact .ok keeps shows.inSlice
  | error events keeps =>
      exact .reported

/-- What follows a parser of tokens concludes anywhere in a slice. -/
theorem Tracks.concludes
    (tracks : Tracks relates [] depth parser descend)
    (inSlice : descent.current ≤ descent.slice.length)
    (atDepth : descent.depth = depth) :
    Concludes descent (descend descent) :=
  (tracks (Descent.shows_shown inSlice) atDepth).concludes

/-- So does every descent that tracks a parser to the end of the slice. -/
theorem Tracks.concluding
    (tracks : Tracks relates [] depth parser descend) :
    Concluding depth descend :=
  fun _ ready => tracks.concludes ready.inSlice ready.atDepth

namespace Descend.Concluding

/-- A value that is given at once is an end. -/
theorem pure (value : β) : Concluding depth (pure value) :=
  fun descent ready => .ok (.refl descent) ready.inSlice

/-- Steps that conclude do so one behind the other. -/
theorem bind
    {next : β → Descend γ}
    (first : Concluding depth descend)
    (second : ∀ value, Concluding depth (next value)) :
    Concluding depth (descend >>= next) := by
  intro descent ready
  have concludes := first ready
  rw [bind_apply]
  generalize descend descent = result at concludes
  cases concludes with
  | @ok value after keeps inSlice =>
      have readyAfter : after.IsReady depth :=
        ⟨keeps.slice ▸ ready.notEmpty, inSlice,
          keeps.depth.trans ready.atDepth⟩
      have further := second value readyAfter
      dsimp only
      generalize next value after = other at further
      cases further with
      | ok keepsFurther inSlice =>
          exact .ok (keeps.trans keepsFurther) inSlice
      | reported =>
          exact .reported
  | reported =>
      exact .reported

end Descend.Concluding

/-- In a slice with tokens there is always one to look back at. -/
theorem concluding_previous : Concluding depth previous := by
  intro descent ready
  have inside : descent.current - 1 < descent.slice.length := by
    have positive := List.length_pos_iff.2 ready.notEmpty
    have inSlice := ready.inSlice
    omega
  rw [previous, get_bind_apply, List.getElem?_eq_getElem inside]
  exact .ok (.refl descent) ready.inSlice

/-- Taking a token comes to an end. -/
theorem concluding_advance : Concluding depth advance := by
  intro descent ready
  cases atEnd : descent.isAtEnd with
  | true =>
      rw [advance_apply, if_pos atEnd]
      exact concluding_previous ready
  | false =>
      obtain ⟨token, isNext, notEnd⟩ := (isAtEnd_eq_false_iff descent).1 atEnd
      obtain ⟨inside, -⟩ := List.getElem?_eq_some_iff.1 isNext
      rw [advance_of_next isNext notEnd]
      exact .ok (.moved descent) inside

/-- Asking for a token comes to an end: it is there, or it is a fault. -/
theorem concluding_expect
    {kind : TokenKind}
    (notEnd : kind ≠ .endOfInput)
    (fault : SyntaxFault) :
    Concluding depth (expect kind fault) := by
  intro descent ready
  have shows := Descent.shows_shown ready.inSlice
  exact (follows_expect notEnd fault shows).concludes

namespace NestedParsers.Track

variable {nested : NestedParsers}
variable {descents : Descents}

/-- The rounds that are counted are enough for all arguments. -/
theorem concluding_argumentsFrom
    (track : nested.Track [] depth descents)
    (found : List Expression) :
    Concluding depth
      (get >>= fun descent =>
        Descend.argumentsFrom descents descent.rounds found) := by
  intro descent ready
  have shows := Descent.shows_shown ready.inSlice
  rw [get_bind_apply]
  have follows :=
    track.argumentsFrom descent.rounds descent.shown.rest found shows
      ready.atDepth (Nat.le_refl _) shows.length_rest_lt_rounds
  exact follows.concludes

/-- A `let` statement comes to an end, wherever its tokens stop. -/
theorem concluding_bindStatement
    (track : nested.Track [] depth descents) :
    Concluding depth (Descend.bindStatement descents) := by
  have nameNotEnd : TokenKind.identifier ≠ .endOfInput := nofun
  have signNotEnd : TokenKind.assign ≠ .endOfInput := nofun
  refine concluding_advance.bind fun keyword => ?_
  refine (concluding_expect nameNotEnd _).bind fun name => ?_
  refine (concluding_expect signNotEnd _).bind fun sign => ?_
  exact track.expression.concluding.bind fun value => .pure _

/-- An assignment comes to an end, wherever its tokens stop. -/
theorem concluding_assignStatement
    (track : nested.Track [] depth descents) :
    Concluding depth (Descend.assignStatement descents) := by
  refine concluding_advance.bind fun target => ?_
  refine concluding_advance.bind fun sign => ?_
  exact track.expression.concluding.bind fun value => .pure _

/-- A `print` statement comes to an end, wherever its tokens stop. -/
theorem concluding_printStatement
    (track : nested.Track [] depth descents) :
    Concluding depth (Descend.printStatement descents) := by
  refine concluding_advance.bind fun keyword => ?_
  refine track.expression.concluding.bind fun first => ?_
  have arguments := track.concluding_argumentsFrom [first]
  exact arguments.bind fun arguments => .pure _

/-- A conditional statement comes to an end, wherever its tokens stop. -/
theorem concluding_branchStatement
    (track : nested.Track [] depth descents) :
    Concluding depth (Descend.branchStatement descents) := by
  refine concluding_advance.bind fun keyword => ?_
  refine track.expression.concluding.bind fun condition => ?_
  refine track.block.concluding.bind fun thenBody => ?_
  exact track.elseBody.concluding.bind fun otherwise => .pure _

/-- A loop comes to an end, wherever its tokens stop. -/
theorem concluding_loopStatement
    (track : nested.Track [] depth descents) :
    Concluding depth (Descend.loopStatement descents) := by
  refine concluding_advance.bind fun keyword => ?_
  refine track.expression.concluding.bind fun condition => ?_
  exact track.block.concluding.bind fun body => .pure _

end NestedParsers.Track

end Conclusions

namespace DescentFunction

variable {phrase : PhraseKind}

/--
Within its slice, every function comes to a value or to a fault.  Where it
takes a token unseen, there has to be one in the slice.
-/
theorem concludes
    (function : DescentFunction phrase)
    {descent : Descent}
    (inSlice : descent.current ≤ descent.slice.length)
    (seen : descent.slice = [] → function.looksFirst = true) :
    Concludes descent (function.run descent) := by
  have track :=
    @NestedParsers.Track.fromDepth [] descent.depth
  have sound := NestedParsers.within_sound (nestingLimit - descent.depth)
  have ready
      (unseen : function.looksFirst = false) :
      descent.IsReady descent.depth := by
    refine ⟨fun empty => ?_, inSlice, rfl⟩
    rw [seen empty] at unseen
    cases unseen
  unfold run
  cases function with
  | expression =>
      exact track.expression.concludes inSlice rfl
  | storey level =>
      have unary := track.operand.unary track.expression
      exact (unary.upTo level).concludes inSlice rfl
  | primary =>
      exact track.expression.primary.concludes inSlice rfl
  | statement =>
      exact track.statement.concludes inSlice rfl
  | bindStatement =>
      exact track.concluding_bindStatement (ready rfl)
  | assignStatement =>
      exact track.concluding_assignStatement (ready rfl)
  | printStatement =>
      exact track.concluding_printStatement (ready rfl)
  | branchStatement =>
      exact track.concluding_branchStatement (ready rfl)
  | loopStatement =>
      exact track.concluding_loopStatement (ready rfl)
  | block =>
      exact track.block.concludes inSlice rfl
  | statements closing =>
      exact (track.statements sound closing).concludes inSlice rfl

/--
From any descent, a function for expressions keeps the height of the expression
that it gives, which is allowed, and every function leaves as many calls open as
it found, whether it gives a value or stops with a fault.  The count of open
calls is never to go below zero, and whatever alarm is to be raised when it is
beyond the limit, none is.  Within the slice, one of the two outcomes comes
about, if there is a token for a function that takes one unseen.
-/
theorem height_kept_and_depth_restored :
    (∀ (function : DescentFunction .expression)
        (descent final : Descent)
        (expression : Expression),
        function.run descent = .ok expression final →
          final.height = expression.height ∧
            expression.height ≤ nestingLimit) ∧
      ∀ {phrase : PhraseKind}
        (function : DescentFunction phrase)
        (descent : Descent),
        (∀ value final, function.run descent = .ok value final →
            final.depth = descent.depth) ∧
          (∀ fault final,
            function.run descent = .error (.reported fault) final →
              final.depth = descent.depth) ∧
          (∀ final, function.run descent ≠ .error .belowZero final) ∧
          (∀ alarm,
            function.runWatched alarm descent = function.run descent) ∧
          (descent.current ≤ descent.slice.length →
            (descent.slice = [] → function.looksFirst = true) →
              (∃ value final, function.run descent = .ok value final) ∨
                ∃ fault final,
                  function.run descent = .error (.reported fault) final) := by
  constructor
  · intro function descent final expression run
    have settles := function.measures_run descent
    rw [run] at settles
    cases settles with
    | ok isMeasured keeps =>
        obtain ⟨same, allowed⟩ := isMeasured
        exact ⟨same, same ▸ allowed⟩
  · intro phrase function descent
    have settles := function.balanced_run descent
    refine ⟨fun value final run => ?_, fun fault final run => ?_,
      fun final run => ?_, fun alarm => ?_, fun inSlice seen => ?_⟩
    · rw [run] at settles
      cases settles with
      | ok _ keeps =>
          exact keeps.depth
    · rw [run] at settles
      cases settles with
      | error _ keeps =>
          exact keeps.depth
    · rw [run] at settles
      cases settles with
      | error notBelow _ =>
          exact notBelow rfl
    · rw [runWatched, Descents.watched_eq_within, run]
    · have concludes := function.concludes inSlice seen
      generalize function.run descent = result at concludes
      cases concludes with
      | @ok value after _ _ =>
          exact .inl ⟨value, after, rfl⟩
      | @reported fault after =>
          exact .inr ⟨fault, after, rfl⟩

/-- A sum whose left operand is the higher one. -/
def lopsidedSum : List Token :=
  [⟨.leftParenthesis, "(", ⟨1, 1⟩⟩, ⟨.integer, "1", ⟨1, 2⟩⟩,
    ⟨.rightParenthesis, ")", ⟨1, 3⟩⟩, ⟨.plus, "+", ⟨1, 5⟩⟩,
    ⟨.integer, "2", ⟨1, 7⟩⟩]

/-- The descent in front of the sum, with a height from before. -/
def beforeLopsidedSum (depth : Nat) : Descent :=
  ⟨lopsidedSum, 0, depth, 7, #[]⟩

/-- The descent behind the sum. -/
def behindLopsidedSum : Descent :=
  ⟨lopsidedSum, 5, 0, 3, #[]⟩

/--
Two levels below the limit the sum is read, one level below it refused.  Behind
it, a binding looks back at the last token and finds no name.
-/
theorem lopsidedSum_height_kept_and_depth_restored :
    (∃ final,
        expression.run (beforeLopsidedSum 254) =
            .ok
              (Expression.binary (.arithmetic .add)
                (.group ⟨1, 1⟩ (.literal ⟨1, 2⟩ (.int 1)))
                (.literal ⟨1, 7⟩ (.int 2)))
              final ∧
          final.height = 3 ∧ final.depth = 254) ∧
      (∃ final,
        expression.run (beforeLopsidedSum 255) =
            .error (.reported (tooDeepAt ⟨1, 2⟩)) final ∧
          final.depth = 255) ∧
      behindLopsidedSum.current ≤ behindLopsidedSum.slice.length ∧
      ∃ fault final,
        bindStatement.run behindLopsidedSum =
          .error (.reported fault) final := by
  obtain ⟨height, rest⟩ := height_kept_and_depth_restored
  obtain ⟨restored, -⟩ := rest expression (beforeLopsidedSum 254)
  obtain ⟨-, restoredFault, -⟩ := rest expression (beforeLopsidedSum 255)
  obtain ⟨-, -, -, -, comesAbout⟩ := rest bindStatement behindLopsidedSum
  have inSlice :
      behindLopsidedSum.current ≤ behindLopsidedSum.slice.length := by
    decide
  refine ⟨⟨_, rfl, ?_, ?_⟩, ⟨_, rfl, ?_⟩, inSlice, ?_⟩
  · exact (height expression (beforeLopsidedSum 254) _ _ rfl).1
  · exact restored _ _ rfl
  · exact restoredFault _ _ rfl
  · rcases comesAbout inSlice (fun empty => by cases empty) with
      ⟨value, final, run⟩ | reported
    · have refused :
          bindStatement.run behindLopsidedSum =
            .error
              (.reported (SyntaxFault.expectedName.located ⟨1, 7⟩))
              behindLopsidedSum :=
        rfl
      rw [refused] at run
      cases run
    · exact reported

end DescentFunction

end OwlScript
