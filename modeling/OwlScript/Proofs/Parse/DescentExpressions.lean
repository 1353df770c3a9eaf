import OwlScript.Proofs.Parse.DescentSteps
import OwlScript.Proofs.Parse.Levels

namespace OwlScript

/-!
# Expressions by index

On expressions the descent follows the parser.  A loop over the operators of a
level takes at least one token a round, so that it is over before its rounds
are.
-/

section Expressions

open Descend

variable {behind : List Token}
variable {depth : Nat}
variable {descent : Descent}
variable {state : ParseState}
variable {token : Token}
variable {operand inside : Parse SizedExpression}
variable {descendOperand descendInside : Descend Expression}

/-- Whether no operator of the level is the end token. -/
def OperatorLevel.HasNoEnd (level : OperatorLevel) : Prop :=
  ∀ pair ∈ level, pair.1 ≠ .endOfInput

/-- A kind that is an operator of such a level is not the end token. -/
theorem OperatorLevel.HasNoEnd.ne_of_lookup
    {level : OperatorLevel}
    {kind : TokenKind}
    {operator : BinaryOperator}
    (noEnd : level.HasNoEnd)
    (isOperator : level.lookup kind = some operator) :
    kind ≠ .endOfInput := by
  induction level with
  | nil =>
      cases isOperator
  | cons pair others hypothesis =>
      obtain ⟨notEnd, othersNoEnd⟩ := List.forall_mem_cons.1 noEnd
      rw [List.lookup_cons] at isOperator
      cases isKind : kind == pair.1 with
      | true =>
          rw [beq_iff_eq.1 isKind]
          exact notEnd
      | false =>
          rw [isKind] at isOperator
          exact hypothesis othersNoEnd isOperator

/-- The descent keeps the height that the parser gives with the expression. -/
theorem follows_sized
    (shows : descent.Shows behind state)
    (expression : Expression)
    (height : Nat) :
    Follows SizedExpression.IsKept behind descent
      (Parse.sized expression height state)
      (sized expression height descent) := by
  unfold Parse.sized sized
  by_cases isTooHigh : nestingLimit < height
  · rw [if_pos isTooHigh, if_pos isTooHigh]
    exact .report shows
  · rw [if_neg isTooHigh, if_neg isTooHigh]
    have showsKept :
        Descent.Shows behind { descent with height := height } state :=
      ⟨shows.ahead, shows.ending, shows.inSlice, shows.events⟩
    exact .ok ⟨rfl, rfl⟩ showsKept ⟨rfl, rfl, Nat.le_refl _⟩

/-- An operator of the level that stands next is taken. -/
theorem acceptOperator_of_lookup
    {level : OperatorLevel}
    {operator : BinaryOperator}
    (noEnd : level.HasNoEnd)
    (isNext : descent.next? = some token)
    (isOperator : level.lookup token.kind = some operator) :
    acceptOperator level descent = .ok (some operator) descent.moved := by
  induction level with
  | nil =>
      cases isOperator
  | cons pair others hypothesis =>
      obtain ⟨kind, first⟩ := pair
      obtain ⟨notEnd, othersNoEnd⟩ := List.forall_mem_cons.1 noEnd
      rw [acceptOperator, Descend.bind_apply]
      by_cases isKind : token.kind = kind
      · rw [List.lookup_cons, isKind, beq_self_eq_true] at isOperator
        rw [accept_of_next isNext isKind notEnd, Option.some.inj isOperator]
        rfl
      · have isOther : (token.kind == kind) = false := by simpa using isKind
        rw [List.lookup_cons, isOther] at isOperator
        have passed : descent.next?.any (·.kind == kind) = false := by
          rw [isNext]
          exact isOther
        rw [accept_of_other passed]
        exact hypothesis othersNoEnd isOperator

/-- Where no operator of the level stands next, nothing is taken. -/
theorem acceptOperator_of_noLookup
    {level : OperatorLevel}
    (noOperator :
      ∀ token ∈ descent.next?, level.lookup token.kind = none) :
    acceptOperator level descent = .ok none descent := by
  induction level with
  | nil =>
      rfl
  | cons pair others hypothesis =>
      obtain ⟨kind, first⟩ := pair
      have passed : descent.next?.any (·.kind == kind) = false := by
        cases isNext : descent.next? with
        | none =>
            rfl
        | some token =>
            have none := noOperator token isNext
            rw [List.lookup_cons] at none
            cases isKind : token.kind == kind with
            | true =>
                rw [isKind] at none
                cases none
            | false =>
                exact isKind
      rw [acceptOperator, Descend.bind_apply, accept_of_other passed]
      refine hypothesis fun token isNext => ?_
      have none := noOperator token isNext
      rw [List.lookup_cons] at none
      rw [Option.mem_def.1 isNext] at passed
      rwa [show (token.kind == kind) = false from passed] at none

/-- An operator of the level is taken by both or by none. -/
theorem acceptOperator_cases
    {level : OperatorLevel}
    (noEnd : level.HasNoEnd)
    (shows : descent.Shows behind state) :
    (Parse.acceptOperator level state = .ok none state ∧
        acceptOperator level descent = .ok none descent) ∨
      ∃ operator final,
        Parse.acceptOperator level state = .ok (some operator) final ∧
          acceptOperator level descent = .ok (some operator) descent.moved ∧
            final.rest.length < state.rest.length ∧
              descent.moved.Shows behind final := by
  have isNext := shows.next?_eq
  obtain ⟨rest, ending, events⟩ := state
  cases rest with
  | nil =>
      refine .inl ⟨rfl, acceptOperator_of_noLookup ?_⟩
      intro token member
      rw [isNext] at member
      cases member
  | cons token later =>
      cases isOperator : level.lookup token.kind with
      | none =>
          refine .inl ⟨?_, acceptOperator_of_noLookup ?_⟩
          · rw [Parse.acceptOperator, Parse.bind_apply, Parse.peek?_apply]
            dsimp only [List.head?_cons]
            rw [isOperator]
            rfl
          · intro other member
            rw [isNext] at member
            cases member
            exact isOperator
      | some operator =>
          have notEnd := noEnd.ne_of_lookup isOperator
          refine .inr ⟨operator, ⟨later, ending, events⟩, ?_,
            acceptOperator_of_lookup noEnd isNext isOperator,
            Nat.lt_succ_self _, shows.moved rfl notEnd⟩
          rw [Parse.acceptOperator, Parse.bind_apply, Parse.peek?_apply]
          dsimp only [List.head?_cons]
          rw [isOperator]
          rfl

/-- A chain that begins with the expression kept goes on alike. -/
theorem follows_chainFrom
    {level : OperatorLevel}
    (noEnd : level.HasNoEnd)
    (tracks :
      Tracks SizedExpression.IsKept behind depth operand descendOperand)
    (rounds : Nat)
    (parserRounds : List Token)
    {left : SizedExpression}
    {leftExpression : Expression}
    (kept : left.IsKept leftExpression descent.height)
    (shows : descent.Shows behind state)
    (atDepth : descent.depth = depth)
    (parserEnough : state.rest.length ≤ parserRounds.length)
    (enough : state.rest.length < rounds) :
    Follows SizedExpression.IsKept behind descent
      (Parse.chainFrom level operand parserRounds left state)
      (chainFrom level descendOperand rounds leftExpression descent) := by
  induction rounds generalizing descent state parserRounds left
      leftExpression with
  | zero =>
      exact absurd enough (Nat.not_lt_zero _)
  | succ rounds hypothesis =>
      rw [chainFrom, Descend.bind_apply]
      rcases acceptOperator_cases noEnd shows with
        ⟨none, descendNone⟩ | ⟨operator, taken, some, descendSome, fewer,
          showsTaken⟩
      · have parserStops :
            Parse.chainFrom level operand parserRounds left state =
              .ok left state := by
          cases parserRounds with
          | nil =>
              rfl
          | cons round parserRounds =>
              rw [Parse.chainFrom, Parse.bind_apply, none]
              rfl
        rw [parserStops, descendNone]
        exact .ok kept shows (.refl descent)
      · cases parserRounds with
        | nil =>
            have nothing : state.rest.length = 0 :=
              Nat.le_zero.1 parserEnough
            omega
        | cons round parserRounds =>
            rw [Parse.chainFrom, Parse.bind_apply, some, descendSome]
            refine .from (.moved descent) ?_
            dsimp only
            rw [get_bind_apply]
            refine (tracks showsTaken atDepth).bind ?_
            intro right rightExpression final after rightKept showsAfter keeps
            have notMore :=
              showsTaken.length_rest_le showsAfter keeps
            rw [get_bind_apply]
            obtain ⟨rfl, leftHeight⟩ := kept
            obtain ⟨rfl, rightHeight⟩ := rightKept
            have sameHeight : descent.moved.height = descent.height := rfl
            rw [leftHeight, rightHeight, ← sameHeight]
            refine (follows_sized showsAfter _ _).bind ?_
            intro joined joinedExpression last later joinedKept showsLater
              keepsLater
            have notMoreLater :=
              showsAfter.length_rest_le showsLater keepsLater
            have enoughRounds : last.rest.length ≤ parserRounds.length := by
              simp only [List.length_cons] at parserEnough
              omega
            exact hypothesis parserRounds joinedKept showsLater
              ((keepsLater.depth.trans keeps.depth).trans atDepth)
              enoughRounds (by omega)

/-- A chain of a level tracks the parser's if its operands do. -/
theorem Tracks.chain
    {level : OperatorLevel}
    (noEnd : level.HasNoEnd)
    (tracks :
      Tracks SizedExpression.IsKept behind depth operand descendOperand) :
    Tracks SizedExpression.IsKept behind depth (Parse.chain level operand)
      (chain level descendOperand) := by
  intro descent state shows atDepth
  refine (tracks shows atDepth).bind ?_
  intro first expression final after kept showsAfter keeps
  rw [get_bind_apply]
  exact follows_chainFrom noEnd tracks _ _ kept showsAfter
    (keeps.depth.trans atDepth) (Nat.le_refl _)
    showsAfter.length_rest_lt_rounds

/-- The storeys of the tower of descents over the given operands. -/
def Descend.upTo (operand : Descend Expression) : Nat → Descend Expression
  | 0 => operand
  | level + 1 => chain (OperatorLevel.above level) (upTo operand level)

/-- The whole tower has six storeys. -/
theorem Descend.overAllLevels_eq_upTo (operand : Descend Expression) :
    overAllLevels operand = upTo operand 6 :=
  rfl

/-- No storey reads the end token. -/
theorem OperatorLevel.hasNoEnd_above (level : Nat) :
    (OperatorLevel.above level).HasNoEnd := by
  match level with
  | 0 | 1 | 2 | 3 | 4 | 5 =>
      simp only [OperatorLevel.HasNoEnd]
      decide
  | level + 6 =>
      exact nofun

/-- Storey by storey, the descents follow the parsers. -/
theorem Tracks.upTo
    (tracks :
      Tracks SizedExpression.IsKept behind depth operand descendOperand)
    (level : Nat) :
    Tracks SizedExpression.IsKept behind depth (Parse.upTo operand level)
      (upTo descendOperand level) := by
  induction level with
  | zero =>
      exact tracks
  | succ level hypothesis =>
      exact hypothesis.chain (OperatorLevel.hasNoEnd_above level)

/-- So does the tower of all levels. -/
theorem Tracks.overAllLevels
    (tracks :
      Tracks SizedExpression.IsKept behind depth operand descendOperand) :
    Tracks SizedExpression.IsKept behind depth (Parse.overAllLevels operand)
      (overAllLevels descendOperand) := by
  rw [Parse.overAllLevels_eq_upTo, Descend.overAllLevels_eq_upTo]
  exact tracks.upTo 6

/-- Both stop with a fault if the token expected is not next. -/
theorem follows_expect
    {kind : TokenKind}
    (notEnd : kind ≠ .endOfInput)
    (fault : SyntaxFault)
    (shows : descent.Shows behind state) :
    Follows
      (fun found other height =>
        found = other ∧ height = descent.height)
      behind descent (Parse.expect kind fault state)
      (expect kind fault descent) := by
  have isNext := shows.next?_eq
  rw [Parse.expect, expect, Parse.bind_apply, Descend.bind_apply,
    Parse.peek?_apply, check_apply, isNext]
  obtain ⟨rest, ending, events⟩ := state
  cases rest with
  | nil =>
      obtain rfl := shows.ending_eq
      dsimp only [List.head?_nil, Option.any_none]
      rw [if_neg Bool.false_ne_true, Descend.bind_apply, peek?_apply, isNext]
      exact .report shows
  | cons token later =>
      dsimp only [List.head?_cons, Option.any_some]
      by_cases isExpected : (token.kind == kind) = true
      · have isKind : token.kind = kind := beq_iff_eq.1 isExpected
        rw [if_pos isExpected, if_pos isExpected,
          advance_of_next isNext (isKind ▸ notEnd)]
        exact .ok ⟨rfl, rfl⟩ (shows.moved rfl (isKind ▸ notEnd))
          (.moved descent)
      · rw [if_neg isExpected, if_neg isExpected, Descend.bind_apply,
          peek?_apply, isNext]
        dsimp only [List.head?_cons]
        by_cases isEnd : (token.kind == .endOfInput) = true
        · rw [if_pos isEnd, if_pos isEnd]
          exact .report shows
        · rw [if_neg isEnd, if_neg isEnd]
          exact .report shows

/-- A leaf of one token tracks the parser's. -/
theorem follows_leaf
    (shows : descent.Shows behind state)
    (isNext : state.rest.head? = some token)
    (notEnd : token.kind ≠ .endOfInput)
    (expression : Expression) :
    Follows SizedExpression.IsKept behind descent
      (Parse.leaf expression state) (leaf expression descent) := by
  have taken : descent.next? = some token := shows.next?_eq.trans isNext
  rw [leaf, Descend.bind_apply, advance_of_next taken notEnd]
  exact (follows_sized (shows.moved isNext notEnd) expression 1).from
    (.moved descent)

/-- A primary expression tracks the parser's if what stands inside does. -/
theorem Tracks.primary
    (tracks :
      Tracks SizedExpression.IsKept behind depth inside descendInside) :
    Tracks SizedExpression.IsKept behind depth (Parse.primary inside)
      (primary descendInside) := by
  intro descent state shows atDepth
  have isNext := shows.next?_eq
  rw [Parse.primary, Descend.primary, Parse.bind_apply, Descend.bind_apply,
    Parse.peek?_apply, peek?_apply, isNext]
  obtain ⟨rest, ending, events⟩ := state
  cases rest with
  | nil =>
      obtain rfl := shows.ending_eq
      exact .report shows
  | cons token later =>
      dsimp only [List.head?_cons]
      obtain ⟨kind, lexeme, position⟩ := token
      refine .record _ shows ?_
      intro recorded final showsRecorded keepsRecorded sameRest
      have isNextRecorded :
          final.rest.head? = some ⟨kind, lexeme, position⟩ :=
        congrArg List.head? sameRest
      have taken := showsRecorded.next?_eq.trans isNextRecorded
      cases kind with
      | integer =>
          dsimp only
          cases Number.readInteger lexeme with
          | none =>
              exact .report showsRecorded
          | some number =>
              exact follows_leaf showsRecorded isNextRecorded nofun _
      | float =>
          dsimp only
          cases Number.readFloat lexeme with
          | none =>
              exact .report showsRecorded
          | some number =>
              exact follows_leaf showsRecorded isNextRecorded nofun _
      | string =>
          exact follows_leaf showsRecorded isNextRecorded nofun _
      | identifier =>
          exact follows_leaf showsRecorded isNextRecorded nofun _
      | keyword word =>
          cases word with
          | trueWord =>
              exact follows_leaf showsRecorded isNextRecorded nofun _
          | falseWord =>
              exact follows_leaf showsRecorded isNextRecorded nofun _
          | nilWord =>
              exact follows_leaf showsRecorded isNextRecorded nofun _
          | _ =>
              exact .report showsRecorded
      | leftParenthesis =>
          dsimp only
          rw [Parse.bind_apply, Descend.bind_apply,
            advance_of_next taken nofun]
          refine .from (.moved recorded) ?_
          refine (tracks (showsRecorded.moved isNextRecorded nofun)
            (keepsRecorded.depth.trans atDepth)).bind ?_
          intro inner innerExpression last after innerKept showsAfter keeps
          rw [get_bind_apply]
          obtain ⟨rfl, innerHeight⟩ := innerKept
          have notEnd : TokenKind.rightParenthesis ≠ .endOfInput := nofun
          refine (follows_expect notEnd _ showsAfter).bind ?_
          intro closing other closed later found showsClosed keepsClosed
          rw [innerHeight]
          exact follows_sized showsClosed _ _
      | _ =>
          exact .report showsRecorded

/--
The two tokens that a unary operator can be are tried one after the other.
-/
theorem acceptUnary_apply (descent : Descent) :
    acceptUnary descent =
      match accept .minus descent with
      | .ok true final => .ok (some .negate) final
      | .ok false final =>
          match accept .bang final with
          | .ok true last => .ok (some .not) last
          | .ok false last =>
              match accept (.keyword .notWord) last with
              | .ok true after => .ok (some .not) after
              | .ok false after => .ok none after
              | .error stop after => .error stop after
          | .error stop last => .error stop last
      | .error stop final => .error stop final := by
  rw [acceptUnary, Descend.bind_apply]
  rcases accept .minus descent with ⟨_ | _, final⟩ | ⟨stop, final⟩
  · dsimp only
    rw [if_neg Bool.false_ne_true, Descend.bind_apply]
    rcases accept .bang final with ⟨_ | _, last⟩ | ⟨stop, last⟩
    · dsimp only
      rw [if_neg Bool.false_ne_true, Descend.bind_apply]
      rcases accept (.keyword .notWord) last with
        ⟨_ | _, after⟩ | ⟨stop, after⟩ <;> rfl
    · rfl
    · rfl
  · rfl
  · rfl

/-- An operator in front of an operand is taken if one is next. -/
theorem acceptUnary_of_operator
    {operator : UnaryOperator}
    (isNext : descent.next? = some token)
    (isOperator : Parse.unaryOperator? token.kind = some operator) :
    acceptUnary descent = .ok (some operator) descent.moved := by
  have isOther
      {kind other : TokenKind}
      (isKind : token.kind = kind)
      (differ : (kind == other) = false) :
      accept other descent = .ok false descent := by
    apply accept_of_other
    rw [isNext, Option.any_some, isKind]
    exact differ
  rw [acceptUnary_apply]
  cases isKind : token.kind with
  | minus =>
      rw [isKind] at isOperator
      rw [accept_of_next isNext isKind nofun]
      cases isOperator
      rfl
  | bang =>
      rw [isKind] at isOperator
      rw [isOther isKind rfl]
      dsimp only
      rw [accept_of_next isNext isKind nofun]
      cases isOperator
      rfl
  | keyword word =>
      rw [isKind] at isOperator
      cases word with
      | notWord =>
          rw [isOther isKind rfl]
          dsimp only
          rw [isOther isKind rfl]
          dsimp only
          rw [accept_of_next isNext isKind nofun]
          cases isOperator
          rfl
      | _ =>
          cases isOperator
  | _ =>
      rw [isKind] at isOperator
      cases isOperator

/-- In front of no unary operator, none is taken. -/
theorem acceptUnary_of_noOperator
    (noOperator :
      ∀ token ∈ descent.next?, Parse.unaryOperator? token.kind = none) :
    acceptUnary descent = .ok none descent := by
  have isOther
      (kind : TokenKind)
      (isOperator : Parse.unaryOperator? kind ≠ none) :
      accept kind descent = .ok false descent := by
    apply accept_of_other
    cases isNext : descent.next? with
    | none =>
        rfl
    | some token =>
        have none := noOperator token isNext
        rw [Option.any_some, beq_eq_false_iff_ne]
        intro isKind
        exact isOperator (isKind ▸ none)
  rw [acceptUnary_apply, isOther .minus nofun]
  dsimp only
  rw [isOther .bang nofun]
  dsimp only
  rw [isOther (.keyword .notWord) nofun]

/-- A unary expression tracks the parser's if its operand does. -/
theorem Tracks.unary
    (operandTracks :
      Tracks SizedExpression.IsKept behind depth operand descendOperand)
    (insideTracks :
      Tracks SizedExpression.IsKept behind depth inside descendInside) :
    Tracks SizedExpression.IsKept behind depth (Parse.unary operand inside)
      (unary descendOperand descendInside) := by
  intro descent state shows atDepth
  have isNext := shows.next?_eq
  rw [Parse.unary, Descend.unary, Parse.bind_apply, Descend.bind_apply,
    Parse.peek?_apply]
  cases here : state.rest.head? with
  | none =>
      have noOperator :
          ∀ token ∈ descent.next?,
            Parse.unaryOperator? token.kind = none := by
        rw [isNext, here]
        exact nofun
      rw [acceptUnary_of_noOperator noOperator]
      exact insideTracks.primary shows atDepth
  | some token =>
      cases isOperator : Parse.unaryOperator? token.kind with
      | none =>
          have noOperator :
              ∀ token ∈ descent.next?,
                Parse.unaryOperator? token.kind = none := by
            rw [isNext, here]
            rintro other ⟨⟩
            exact isOperator
          rw [acceptUnary_of_noOperator noOperator]
          dsimp only
          rw [isOperator]
          exact insideTracks.primary shows atDepth
      | some operator =>
          have taken : descent.next? = some token := isNext.trans here
          have notEnd : token.kind ≠ .endOfInput := by
            intro isEnd
            rw [isEnd] at isOperator
            cases isOperator
          rw [acceptUnary_of_operator taken isOperator]
          dsimp only
          rw [isOperator, Descend.bind_apply, previous_moved taken]
          refine .from (.moved descent) ?_
          refine (operandTracks (shows.moved here notEnd) atDepth).bind ?_
          intro inner innerExpression final after innerKept showsAfter keeps
          rw [get_bind_apply]
          obtain ⟨rfl, innerHeight⟩ := innerKept
          rw [innerHeight]
          exact follows_sized showsAfter _ _

end Expressions

end OwlScript
