import OwlScript.Proofs.Parse.DescentExpressions
import OwlScript.Proofs.Parse.ProgramSoundness

namespace OwlScript

/-!
# Programs by index

On statements the descent follows the parser as well, since each of them takes
at least one token.  What opens a level is called one level deeper, where the
parsers of the tower are one storey less high.  The descent refuses where the
tower ends.
-/

/--
The descents follow the parsers in calls from the depth.  A conditional
statement is only called for in front of its keyword.
-/
structure NestedParsers.Track
    (behind : List Token)
    (depth : Nat)
    (nested : NestedParsers)
    (descents : Descents) : Prop where
  expression :
    Tracks SizedExpression.IsKept behind depth nested.expression
      descents.expression
  operand :
    Tracks SizedExpression.IsKept behind depth nested.operand descents.operand
  body : Tracks IsSame behind depth nested.body descents.body
  branch :
    ∀ ⦃descent : Descent⦄ ⦃state : ParseState⦄ ⦃token : Token⦄,
      descent.Shows behind state →
      descent.depth = depth →
      state.rest.head? = some token →
      token.kind ≠ .endOfInput →
      Follows IsSame behind descent (nested.branch state)
        (descents.branch descent)

/-- The descent with one more open call. -/
def Descent.deeper (descent : Descent) : Descent :=
  { descent with depth := descent.depth + 1 }

section Levels

open Descend

variable {α β : Type}
variable {relates : α → β → Nat → Prop}
variable {behind : List Token}
variable {depth : Nat}
variable {parser : Parse α}
variable {descend : Descend β}

/-- An open call more shows the same tokens. -/
theorem Descent.Shows.deeper
    {descent : Descent}
    {state : ParseState}
    (shows : descent.Shows behind state) :
    descent.deeper.Shows behind state :=
  ⟨shows.ahead, shows.ending, shows.inSlice, shows.events⟩

/-- Below the limit, a call is counted and left behind what it does. -/
theorem Descend.nested_of_lt
    {descent : Descent}
    (below : descent.depth < nestingLimit)
    (descend : Descend β) :
    nested descend descent = followedBy descend leave descent.deeper := by
  rw [nested, get_bind_apply, if_neg (Nat.not_le.2 below)]
  rfl

/-- At the limit, a call is refused. -/
theorem Descend.nested_of_le
    {descent : Descent}
    (beyond : nestingLimit ≤ descent.depth)
    (descend : Descend β) :
    nested descend descent = report (tooDeepAt descent.place) descent := by
  rw [nested, get_bind_apply, if_pos beyond]

/-- The call that was counted last is left. -/
theorem Descend.leave_of_keeps
    {descent after : Descent}
    (keeps : descent.deeper.Keeps after) :
    leave after = .ok () { after with depth := descent.depth } := by
  have depthAfter : after.depth = descent.depth + 1 := keeps.depth
  have counted : after.depth ≠ 0 := depthAfter ▸ Nat.succ_ne_zero _
  have reduced :
      leave after = .ok () { after with depth := after.depth - 1 } := by
    rw [leave, get_bind_apply, if_neg counted]
    rfl
  rw [reduced, depthAfter]
  rfl

/-- What a call keeps is kept where it has been left. -/
theorem Descent.Keeps.left
    {descent after : Descent}
    (keeps : descent.deeper.Keeps after) :
    descent.Keeps { after with depth := descent.depth } :=
  ⟨keeps.slice, rfl, keeps.current_le⟩

/-- A call is counted while it is open, and left however it ends. -/
theorem Follows.nested
    {descent : Descent}
    {state : ParseState}
    (below : descent.depth < nestingLimit)
    (follows :
      Follows relates behind descent.deeper (parser state)
        (descend descent.deeper)) :
    Follows relates behind descent (parser state)
      (nested descend descent) := by
  rw [nested_of_lt below, followedBy]
  generalize parser state = result at follows
  generalize descend descent.deeper = other at follows
  cases follows with
  | ok related showsAfter keeps =>
      dsimp only
      rw [leave_of_keeps keeps]
      exact .ok related
        ⟨showsAfter.ahead, showsAfter.ending, showsAfter.inSlice,
          showsAfter.events⟩
        keeps.left
  | error events keeps =>
      dsimp only
      rw [leave_of_keeps keeps]
      exact .error events keeps.left

/-- Below the limit, a nested call tracks the parser that is called. -/
theorem Tracks.nested
    (below : depth < nestingLimit)
    (tracks : Tracks relates behind (depth + 1) parser descend) :
    Tracks relates behind depth parser (nested descend) :=
  fun _ _ shows atDepth =>
    .nested (atDepth ▸ below)
      (tracks shows.deeper (congrArg (· + 1) atDepth))

/-- At the limit, both refuse at the same place. -/
theorem Tracks.refused (beyond : nestingLimit ≤ depth) :
    Tracks relates behind depth (Parse.refuseDepth : Parse α)
      (Descend.nested descend) := by
  intro descent state shows atDepth
  rw [Parse.refuseDepth, Parse.bind_apply, shows.place_eq,
    nested_of_le (atDepth ▸ beyond)]
  exact .report shows

end Levels

/-! ### Statements -/

section Steps

open Descend

variable {behind : List Token}
variable {descent : Descent}
variable {state : ParseState}

/-- The parser's look at the next token takes nothing. -/
theorem Parse.nextIs_apply (kind : TokenKind) (state : ParseState) :
    nextIs kind state =
      .ok (state.rest.head?.any (·.kind == kind)) state := by
  rw [nextIs, bind_apply, peek?_apply]
  cases state.rest.head? <;> rfl

/-- Neither does its look at the token behind that. -/
theorem Parse.secondIs_apply (kind : TokenKind) (state : ParseState) :
    secondIs kind state = .ok (state.rest[1]?.any (·.kind == kind)) state := by
  have second : peekSecond? state = .ok state.rest[1]? state := rfl
  rw [secondIs, bind_apply, second]
  cases state.rest[1]? <;> rfl

/-- The look of the descent at the token behind the next takes nothing. -/
theorem Descend.checkNext_apply (kind : TokenKind) (descent : Descent) :
    checkNext kind descent =
      .ok (descent.slice[descent.current + 1]?.any (·.kind == kind))
        descent := by
  rw [checkNext, get_bind_apply]
  cases descent.slice[descent.current + 1]? <;> rfl

/-- Where the second token is of a kind, there are two tokens at least. -/
theorem exists_sign_of_second?_any
    {tokens : List Token}
    {first : Token}
    {kind : TokenKind}
    (isFirst : tokens.head? = some first)
    (isSecond : tokens[1]?.any (·.kind == kind) = true) :
    ∃ second later, tokens = first :: second :: later ∧ second.kind = kind := by
  match tokens with
  | [] =>
      cases isFirst
  | [_] =>
      cases isSecond
  | _ :: second :: later =>
      cases isFirst
      exact ⟨second, later, rfl, beq_iff_eq.1 isSecond⟩

/-- A token of the kind is taken by both or by none. -/
theorem accept_cases
    {kind : TokenKind}
    (notEnd : kind ≠ .endOfInput)
    (shows : descent.Shows behind state) :
    (state.rest.head?.any (·.kind == kind) = false ∧
        Parse.accept kind state = .ok false state ∧
          accept kind descent = .ok false descent) ∨
      ∃ token later,
        state.rest = token :: later ∧ token.kind = kind ∧
          Parse.accept kind state = .ok true { state with rest := later } ∧
            accept kind descent = .ok true descent.moved ∧
              descent.moved.Shows behind { state with rest := later } := by
  have isNext := shows.next?_eq
  rw [Parse.accept, Parse.bind_apply, Parse.nextIs_apply]
  cases isKind : state.rest.head?.any (·.kind == kind) with
  | false =>
      refine .inl ⟨rfl, rfl, accept_of_other ?_⟩
      rw [isNext, isKind]
  | true =>
      obtain ⟨rest, ending, events⟩ := state
      cases rest with
      | nil =>
          cases isKind
      | cons token later =>
          have same : token.kind = kind := beq_iff_eq.1 isKind
          exact .inr ⟨token, later, rfl, same, rfl,
            accept_of_next isNext same notEnd,
            shows.moved rfl (same ▸ notEnd)⟩

/--
With enough rounds, the descent skips the semicolons that the parser skips.
-/
theorem shows_skipSemicolonsFrom
    {rounds : Nat}
    (shows : descent.Shows behind state)
    (enough : state.rest.length < rounds) :
    ∃ after,
      skipSemicolonsFrom rounds descent = .ok () after ∧
        descent.Keeps after ∧
          after.Shows behind
            { state with
              rest := state.rest.dropWhile (·.kind == .semicolon) } := by
  induction rounds generalizing descent state with
  | zero =>
      exact absurd enough (Nat.not_lt_zero _)
  | succ rounds hypothesis =>
      have notEnd : TokenKind.semicolon ≠ .endOfInput := nofun
      rw [skipSemicolonsFrom, Descend.bind_apply]
      rcases accept_cases notEnd shows with
        ⟨isOther, -, descendOther⟩ | ⟨token, later, rest, isKind, -,
          descendTaken, showsTaken⟩
      · have allKept :
            state.rest.dropWhile (·.kind == .semicolon) = state.rest := by
          cases rest : state.rest with
          | nil =>
              rfl
          | cons token later =>
              rw [rest] at isOther
              exact List.dropWhile_cons_of_neg (by simpa using isOther)
        rw [descendOther, allKept]
        exact ⟨descent, rfl, .refl descent, shows⟩
      · have fewer : later.length < rounds := by
          rw [rest, List.length_cons] at enough
          exact Nat.lt_of_succ_lt_succ enough
        obtain ⟨after, run, keeps, showsAfter⟩ :=
          hypothesis showsTaken fewer
        have skipped :
            state.rest.dropWhile (·.kind == .semicolon) =
              later.dropWhile (·.kind == .semicolon) := by
          rw [rest]
          exact List.dropWhile_cons_of_pos (beq_iff_eq.2 isKind)
        rw [descendTaken, skipped]
        exact ⟨after, run, (Descent.Keeps.moved descent).trans keeps,
          showsAfter⟩

/-- Both move over the same semicolons. -/
theorem follows_skipSemicolons (shows : descent.Shows behind state) :
    Follows IsSame behind descent (Parse.skipSemicolons state)
      (skipSemicolons descent) := by
  obtain ⟨after, run, keeps, showsAfter⟩ :=
    shows_skipSemicolonsFrom shows shows.length_rest_lt_rounds
  rw [skipSemicolons, get_bind_apply, run]
  exact .ok rfl showsAfter keeps

/-- A sequence is closed by its token or by the end of the tokens. -/
theorem Descend.atClosing_apply
    (closing : Option TokenKind)
    (descent : Descent) :
    atClosing closing descent =
      .ok
        ((closing.any fun kind => descent.next?.any (·.kind == kind)) ||
          descent.isAtEnd)
        descent := by
  cases closing with
  | none =>
      rfl
  | some kind =>
      rw [atClosing, Descend.bind_apply, check_apply]
      rfl

/-- Both find themselves at the end of the same statements. -/
theorem atClosing_agrees
    (closing : Option TokenKind)
    (shows : descent.Shows behind state) :
    ∃ ends,
      Parse.atClosing closing state = .ok ends state ∧
        atClosing closing descent = .ok ends descent := by
  rw [Parse.atClosing, Parse.bind_apply, Parse.peek?_apply,
    Descend.atClosing_apply, Descent.isAtEnd, shows.next?_eq]
  cases state.rest.head? with
  | none =>
      refine ⟨true, rfl, ?_⟩
      rw [Bool.or_true]
  | some token =>
      refine ⟨_, rfl, ?_⟩
      cases closing with
      | none =>
          simp
      | some kind =>
          simp [Bool.or_comm]

/-- Both take the first token of a statement and keep its position. -/
theorem follows_keyword
    {α β : Type}
    {relates : α → β → Nat → Prop}
    {token : Token}
    {next : Position → Parse α}
    {otherNext : Token → Descend β}
    (shows : descent.Shows behind state)
    (isNext : state.rest.head? = some token)
    (notEnd : token.kind ≠ .endOfInput)
    (follows :
      ∀ ⦃after final⦄, after.Shows behind final → descent.Keeps after →
        Follows relates behind after (next token.position final)
          (otherNext token after)) :
    Follows relates behind descent
      ((Parse.place >>= fun position =>
        Parse.advance >>= fun _ => next position) state)
      ((advance >>= otherNext) descent) := by
  have taken := shows.next?_eq.trans isNext
  have position : descent.place = token.position := by
    rw [Descent.place, taken]
  rw [Parse.bind_apply, shows.place_eq, position, Descend.bind_apply,
    advance_of_next taken notEnd]
  exact (follows (shows.moved isNext notEnd) (.moved descent)).from
    (.moved descent)

end Steps

section Statements

open Descend

variable {behind : List Token}
variable {depth : Nat}
variable {nested : NestedParsers}
variable {descents : Descents}

namespace NestedParsers.Track

/-- A block tracks the parser's if what is nested in it does. -/
theorem block (track : nested.Track behind depth descents) :
    Tracks IsSame behind depth (Parse.block nested) (block descents) := by
  intro descent state shows atDepth
  have braceNotEnd : TokenKind.leftBrace ≠ .endOfInput := nofun
  refine (follows_expect braceNotEnd _ shows).bind ?_
  intro opening other final after found showsAfter keeps
  refine (track.body showsAfter (keeps.depth.trans atDepth)).bind ?_
  rintro body _ last later rfl showsLater keepsLater
  have closingNotEnd : TokenKind.rightBrace ≠ .endOfInput := nofun
  refine (follows_expect closingNotEnd _ showsLater).bind ?_
  intro closing otherClosing end_ ended foundClosing showsEnded keepsEnded
  exact .ok rfl showsEnded (.refl ended)

/-- The same arguments are read up to the end of the row. -/
theorem argumentsFrom
    (track : nested.Track behind depth descents)
    {descent : Descent}
    {state : ParseState}
    (rounds : Nat)
    (parserRounds : List Token)
    (found : List Expression)
    (shows : descent.Shows behind state)
    (atDepth : descent.depth = depth)
    (parserEnough : state.rest.length ≤ parserRounds.length)
    (enough : state.rest.length < rounds) :
    Follows IsSame behind descent
      (Parse.argumentsFrom nested parserRounds found state)
      (argumentsFrom descents rounds found descent) := by
  induction rounds generalizing descent state parserRounds found with
  | zero =>
      exact absurd enough (Nat.not_lt_zero _)
  | succ rounds hypothesis =>
      have notEnd : TokenKind.comma ≠ .endOfInput := nofun
      rw [Descend.argumentsFrom, Descend.bind_apply]
      rcases accept_cases notEnd shows with
        ⟨-, other, descendOther⟩ | ⟨token, later, rest, -, taken,
          descendTaken, showsTaken⟩
      · have parserStops :
            Parse.argumentsFrom nested parserRounds found state =
              .ok found.reverse state := by
          cases parserRounds with
          | nil =>
              rfl
          | cons round parserRounds =>
              rw [Parse.argumentsFrom, Parse.bind_apply, other]
              rfl
        rw [parserStops, descendOther]
        exact .ok rfl shows (.refl descent)
      · cases parserRounds with
        | nil =>
            rw [rest] at parserEnough
            cases parserEnough
        | cons round parserRounds =>
            rw [Parse.argumentsFrom, Parse.bind_apply, taken, descendTaken]
            refine .from (.moved descent) ?_
            refine (track.expression showsTaken atDepth).bind ?_
            rintro argument _ final after ⟨rfl, -⟩ showsAfter keeps
            have notMore := showsTaken.length_rest_le showsAfter keeps
            simp only [rest, List.length_cons] at parserEnough enough
            exact hypothesis parserRounds (argument.expression :: found)
              showsAfter (keeps.depth.trans atDepth)
              (Nat.le_trans notMore (Nat.le_of_succ_le_succ parserEnough))
              (Nat.lt_of_le_of_lt notMore (Nat.lt_of_succ_lt_succ enough))

/-- So does what stands behind an `else`. -/
theorem elseBody (track : nested.Track behind depth descents) :
    Tracks IsSame behind depth (Parse.elseBody nested)
      (elseBody descents) := by
  intro descent state shows atDepth
  have notEnd : TokenKind.keyword .elseWord ≠ .endOfInput := nofun
  rw [Parse.elseBody, Descend.elseBody, Parse.bind_apply, Descend.bind_apply]
  rcases accept_cases notEnd shows with
    ⟨-, other, descendOther⟩ | ⟨token, later, rest, -, taken,
      descendTaken, showsTaken⟩
  · rw [other, descendOther]
    exact .ok rfl shows (.refl descent)
  · rw [taken, descendTaken]
    refine .from (.moved descent) ?_
    dsimp only
    rw [if_pos rfl, if_pos rfl, Parse.bind_apply, Descend.bind_apply,
      Parse.nextIs_apply, check_apply, showsTaken.next?_eq]
    dsimp only
    split
    case isTrue isIf =>
        obtain ⟨keyword, isNext, isKeyword⟩ := (Option.any_eq_true _ _).1 isIf
        have keywordNotEnd : keyword.kind ≠ .endOfInput := by
          rw [beq_iff_eq.1 isKeyword]
          exact nofun
        refine (track.branch showsTaken atDepth isNext keywordNotEnd).bind ?_
        rintro branch _ final after rfl showsAfter keeps
        exact .ok rfl showsAfter (.refl after)
    case isFalse =>
        refine (track.block showsTaken atDepth).bind ?_
        rintro body _ final after rfl showsAfter keeps
        exact .ok rfl showsAfter (.refl after)

/-- So does a statement that is an expression. -/
theorem evaluateStatement (track : nested.Track behind depth descents) :
    Tracks IsSame behind depth (Parse.evaluateStatement nested)
      (evaluateStatement descents) := by
  intro descent state shows atDepth
  refine (track.expression shows atDepth).bind ?_
  rintro value _ final after ⟨rfl, -⟩ showsAfter keeps
  exact .ok rfl showsAfter (.refl after)

section FirstToken

variable {descent : Descent}
variable {state : ParseState}
variable {token : Token}

/-- So does a `let` statement, called for in front of its keyword. -/
theorem bindStatement
    (track : nested.Track behind depth descents)
    (shows : descent.Shows behind state)
    (atDepth : descent.depth = depth)
    (isNext : state.rest.head? = some token)
    (notEnd : token.kind ≠ .endOfInput) :
    Follows IsSame behind descent (Parse.bindStatement nested state)
      (bindStatement descents descent) := by
  refine follows_keyword shows isNext notEnd ?_
  intro named final showsNamed keepsNamed
  have nameNotEnd : TokenKind.identifier ≠ .endOfInput := nofun
  refine (follows_expect nameNotEnd _ showsNamed).bind ?_
  rintro name _ assigned after ⟨rfl, -⟩ showsAssigned keepsAssigned
  have signNotEnd : TokenKind.assign ≠ .endOfInput := nofun
  refine (follows_expect signNotEnd _ showsAssigned).bind ?_
  intro sign other valued later found showsValued keepsValued
  have atValue :=
    (keepsNamed.trans (keepsAssigned.trans keepsValued)).depth.trans atDepth
  refine (track.expression showsValued atValue).bind ?_
  rintro value _ last ended ⟨rfl, -⟩ showsEnded keepsEnded
  exact .ok rfl showsEnded (.refl ended)

/-- So does a `print` statement, called for in front of its keyword. -/
theorem printStatement
    (track : nested.Track behind depth descents)
    (shows : descent.Shows behind state)
    (atDepth : descent.depth = depth)
    (isNext : state.rest.head? = some token)
    (notEnd : token.kind ≠ .endOfInput) :
    Follows IsSame behind descent (Parse.printStatement nested state)
      (printStatement descents descent) := by
  refine follows_keyword shows isNext notEnd ?_
  intro named final showsNamed keepsNamed
  refine (track.expression showsNamed (keepsNamed.depth.trans atDepth)).bind ?_
  rintro first _ last after ⟨rfl, -⟩ showsAfter keepsAfter
  rw [get_bind_apply]
  have follows :=
    track.argumentsFrom after.rounds last.rest [first.expression] showsAfter
      ((keepsNamed.trans keepsAfter).depth.trans atDepth) (Nat.le_refl _)
      showsAfter.length_rest_lt_rounds
  refine follows.bind ?_
  rintro arguments _ read ended rfl showsEnded keepsEnded
  exact .ok rfl showsEnded (.refl ended)

/-- So does a loop, called for in front of its keyword. -/
theorem loopStatement
    (track : nested.Track behind depth descents)
    (shows : descent.Shows behind state)
    (atDepth : descent.depth = depth)
    (isNext : state.rest.head? = some token)
    (notEnd : token.kind ≠ .endOfInput) :
    Follows IsSame behind descent (Parse.loopStatement nested state)
      (loopStatement descents descent) := by
  refine follows_keyword shows isNext notEnd ?_
  intro named final showsNamed keepsNamed
  have atCondition := keepsNamed.depth.trans atDepth
  refine (track.expression showsNamed atCondition).bind ?_
  rintro condition _ last after ⟨rfl, -⟩ showsAfter keepsAfter
  refine (track.block showsAfter (keepsAfter.depth.trans atCondition)).bind ?_
  rintro body _ closed ended rfl showsEnded keepsEnded
  exact .ok rfl showsEnded (.refl ended)

/-- So does a conditional statement, called for in front of its keyword. -/
theorem branchStatement
    (track : nested.Track behind depth descents)
    (shows : descent.Shows behind state)
    (atDepth : descent.depth = depth)
    (isNext : state.rest.head? = some token)
    (notEnd : token.kind ≠ .endOfInput) :
    Follows IsSame behind descent (Parse.branchStatement nested state)
      (branchStatement descents descent) := by
  refine follows_keyword shows isNext notEnd ?_
  intro named final showsNamed keepsNamed
  have atCondition := keepsNamed.depth.trans atDepth
  refine (track.expression showsNamed atCondition).bind ?_
  rintro condition _ last after ⟨rfl, -⟩ showsAfter keepsAfter
  have atThen := keepsAfter.depth.trans atCondition
  refine (track.block showsAfter atThen).bind ?_
  rintro thenBody _ closed otherwise rfl showsElse keepsElse
  refine (track.elseBody showsElse (keepsElse.depth.trans atThen)).bind ?_
  rintro elseBody _ finished ended rfl showsEnded keepsEnded
  exact .ok rfl showsEnded (.refl ended)

/-- The name and the sign behind it are taken by both. -/
theorem assignStatement
    {sign : Token}
    {later : List Token}
    (track : nested.Track behind depth descents)
    (shows : descent.Shows behind state)
    (atDepth : descent.depth = depth)
    (areNext : state.rest = token :: sign :: later)
    (notEnd : token.kind ≠ .endOfInput)
    (signNotEnd : sign.kind ≠ .endOfInput) :
    Follows IsSame behind descent (Parse.assignStatement nested token state)
      (assignStatement descents descent) := by
  obtain ⟨rest, ending, events⟩ := state
  obtain rfl : rest = token :: sign :: later := areNext
  have showsSign := shows.moved rfl notEnd
  have showsValue := showsSign.moved rfl signNotEnd
  rw [Parse.assignStatement, Descend.assignStatement, Parse.bind_apply,
    Descend.bind_apply, advance_of_next shows.next?_eq notEnd]
  refine .from (.moved descent) ?_
  dsimp only
  rw [Descend.bind_apply, advance_of_next showsSign.next?_eq signNotEnd]
  refine .from (.moved descent.moved) ?_
  refine (track.expression showsValue atDepth).bind ?_
  rintro value _ final after ⟨rfl, -⟩ showsAfter keeps
  exact .ok rfl showsAfter (.refl after)

end FirstToken

/-- A statement of any form tracks the parser's. -/
theorem statement (track : nested.Track behind depth descents) :
    Tracks IsSame behind depth (Parse.statement nested)
      (statement descents) := by
  intro descent state shows atDepth
  have isNext := shows.next?_eq
  rw [Parse.statement, Descend.statement, Parse.bind_apply,
    Descend.bind_apply, Parse.peek?_apply, peek?_apply, isNext]
  cases here : state.rest.head? with
  | none =>
      exact track.evaluateStatement shows atDepth
  | some token =>
      dsimp only
      refine .record _ shows ?_
      intro recorded final showsRecorded keeps sameRest
      have isNextRecorded : final.rest.head? = some token := by
        rw [sameRest, here]
      have atRecorded := keeps.depth.trans atDepth
      cases kind : token.kind with
      | keyword word =>
          have notEnd : token.kind ≠ .endOfInput := by
            rw [kind]
            exact nofun
          cases word with
          | letWord =>
              exact track.bindStatement showsRecorded atRecorded
                isNextRecorded notEnd
          | printWord =>
              exact track.printStatement showsRecorded atRecorded
                isNextRecorded notEnd
          | ifWord =>
              exact track.branchStatement showsRecorded atRecorded
                isNextRecorded notEnd
          | whileWord =>
              exact track.loopStatement showsRecorded atRecorded
                isNextRecorded notEnd
          | _ =>
              exact track.evaluateStatement showsRecorded atRecorded
      | identifier =>
          have notEnd : token.kind ≠ .endOfInput := by
            rw [kind]
            exact nofun
          dsimp only
          rw [Parse.bind_apply, Descend.bind_apply, Parse.secondIs_apply,
            checkNext_apply, showsRecorded.second?_eq isNextRecorded notEnd]
          dsimp only
          split
          case isTrue isAssign =>
              obtain ⟨sign, later, areNext, isSign⟩ :=
                exists_sign_of_second?_any isNextRecorded isAssign
              refine track.assignStatement showsRecorded atRecorded areNext
                notEnd ?_
              rw [isSign]
              exact nofun
          case isFalse =>
              exact track.evaluateStatement showsRecorded atRecorded
      | _ =>
          exact track.evaluateStatement showsRecorded atRecorded

/-- A statement takes at least one token. -/
theorem length_rest_lt_of_statement
    {state final : ParseState}
    {value : Statement}
    (sound : nested.Sound)
    (run : Parse.statement nested state = .ok value final) :
    final.rest.length < state.rest.length := by
  obtain ⟨taken, rest, derives⟩ :=
    Parse.ensures_statement sound state.rest state value final rfl run
  obtain ⟨first, later, isTaken, -⟩ := derives.derived.exists_first
  rw [rest, isTaken, List.cons_append, List.length_cons, List.length_append]
  omega

/-- Where no token is left, one more round of the parser changes nothing. -/
theorem statementsFrom_nil
    {state : ParseState}
    (nothing : state.rest = [])
    (closing : Option TokenKind)
    (round : Token)
    (found : List Statement) :
    Parse.statementsFrom nested closing [] found state =
      Parse.statementsFrom nested closing [round] found state := by
  obtain ⟨rest, ending, events⟩ := state
  obtain rfl : rest = [] := nothing
  rfl

/-- The same statements are read up to the closing token. -/
theorem statementsFrom
    (track : nested.Track behind depth descents)
    (sound : nested.Sound)
    (closing : Option TokenKind)
    {descent : Descent}
    {state : ParseState}
    (rounds : Nat)
    (parserRounds : List Token)
    (found : List Statement)
    (shows : descent.Shows behind state)
    (atDepth : descent.depth = depth)
    (parserEnough : state.rest.length ≤ parserRounds.length)
    (enough : state.rest.length < rounds) :
    Follows IsSame behind descent
      (Parse.statementsFrom nested closing parserRounds found state)
      (statementsFrom descents closing rounds found descent) := by
  induction rounds generalizing descent state parserRounds found with
  | zero =>
      exact absurd enough (Nat.not_lt_zero _)
  | succ rounds hypothesis =>
      -- The descent has a round more than tokens, which the parser need not
      -- have.
      obtain ⟨round, others, sameRun, othersEnough⟩ :
          ∃ round others,
            Parse.statementsFrom nested closing parserRounds found state =
                Parse.statementsFrom nested closing (round :: others) found
                  state ∧
              state.rest.length ≤ others.length + 1 := by
        cases parserRounds with
        | nil =>
            have nothing : state.rest = [] :=
              List.length_eq_zero_iff.1 (Nat.le_zero.1 parserEnough)
            refine ⟨⟨.endOfInput, "", .start⟩, [],
              statementsFrom_nil nothing closing _ found, ?_⟩
            rw [nothing]
            exact Nat.zero_le _
        | cons round others =>
            exact ⟨round, others, rfl, parserEnough⟩
      rw [sameRun, Parse.statementsFrom, Descend.statementsFrom]
      refine (follows_skipSemicolons shows).bind ?_
      intro _ _ final after _ showsAfter keeps
      have notMore := shows.length_rest_le showsAfter keeps
      obtain ⟨ends, parserEnds, descentEnds⟩ :=
        atClosing_agrees closing showsAfter
      rw [Parse.bind_apply, Descend.bind_apply, parserEnds, descentEnds]
      cases ends with
      | true =>
          exact .ok rfl showsAfter (.refl after)
      | false =>
          have atStatement := keeps.depth.trans atDepth
          refine (track.statement showsAfter atStatement).bindRun ?_
          rintro next _ last later run rfl showsLater keepsLater
          have fewer := length_rest_lt_of_statement sound run
          exact hypothesis others (next :: found) showsLater
            (keepsLater.depth.trans atStatement) (by omega) (by omega)

/-- So does a sequence of statements, however it is closed. -/
theorem statements
    (track : nested.Track behind depth descents)
    (sound : nested.Sound)
    (closing : Option TokenKind) :
    Tracks IsSame behind depth (Parse.statements nested closing)
      (statements descents closing) := by
  intro descent state shows atDepth
  exact track.statementsFrom sound closing descent.rounds state.rest [] shows
    atDepth (Nat.le_refl _) shows.length_rest_lt_rounds

/-- The parsers one level further out are followed one call earlier. -/
theorem around
    (track : nested.Track behind (depth + 1) descents)
    (sound : nested.Sound)
    (below : depth < nestingLimit) :
    nested.around.Track behind depth descents.around where
  expression :=
    .nested below (track.operand.unary track.expression).overAllLevels
  operand := .nested below (track.operand.unary track.expression)
  body := .nested below (track.statements sound (some .rightBrace))
  branch _ _ _ shows atDepth isNext notEnd :=
    .nested (atDepth ▸ below)
      (track.branchStatement shows.deeper (congrArg (· + 1) atDepth) isNext
        notEnd)

/-- Beyond the last level allowed, the descents refuse as the parsers do. -/
theorem refusing (beyond : nestingLimit ≤ depth) :
    NestedParsers.refusing.Track behind depth (Descents.within 1) where
  expression := .refused beyond
  operand := .refused beyond
  body := .refused beyond
  branch _ _ _ shows atDepth _ _ := Tracks.refused beyond shows atDepth

/-- With as many levels left as are not open, the descents follow. -/
theorem within
    {levels : Nat}
    (atMost : levels ≤ nestingLimit) :
    (NestedParsers.within levels).Track behind (nestingLimit - levels)
      (Descents.within (levels + 1)) := by
  induction levels with
  | zero =>
      exact refusing (Nat.le_refl nestingLimit)
  | succ levels hypothesis =>
      have below : nestingLimit - (levels + 1) < nestingLimit := by omega
      have oneFurther :
          nestingLimit - (levels + 1) + 1 = nestingLimit - levels := by
        omega
      have track := hypothesis (Nat.le_of_succ_le atMost)
      rw [← oneFurther] at track
      exact track.around (NestedParsers.within_sound levels) below

/-- From any depth, the descents that are left follow the parsers left. -/
theorem fromDepth (depth : Nat) :
    (NestedParsers.within (nestingLimit - depth)).Track behind depth
      (Descents.within (nestingLimit - depth + 1)) := by
  rcases Nat.le_total depth nestingLimit with below | beyond
  · have track :=
      @within behind (nestingLimit - depth) (Nat.sub_le nestingLimit depth)
    rwa [Nat.sub_sub_self below] at track
  · rw [Nat.sub_eq_zero_of_le beyond]
    exact refusing beyond

end NestedParsers.Track

end Statements

end OwlScript
