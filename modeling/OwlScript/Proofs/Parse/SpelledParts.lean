import OwlScript.Proofs.Parse.Grammar
import OwlScript.Proofs.Program.Parts

namespace OwlScript

/-!
# Where the parts of a phrase are spelled

The tokens that spell a part of a phrase stand next to each other among those
that spell the whole.  This holds of every node of an expression, and of the
expressions and the simple statements of a phrase.
-/

namespace Grammar

variable {tokens inner : List Token}
variable {follows : Statement → List Token → Prop}

/-- Some tokens next to each other spell the expression. -/
def SpelledWithin (tokens : List Token) (expression : Expression) : Prop :=
  ∃ part, part <:+: tokens ∧ Spells part expression

/-- Some tokens next to each other spell the statement. -/
def DerivedWithin
    (follows : Statement → List Token → Prop)
    (tokens : List Token)
    (statement : Statement) : Prop :=
  ∃ part, part <:+: tokens ∧ Derives follows (.statement statement) part

/-- What is spelled within a part of the tokens is spelled within them. -/
theorem SpelledWithin.mono
    {expression : Expression}
    (spelled : SpelledWithin inner expression)
    (within : inner <:+: tokens) :
    SpelledWithin tokens expression := by
  obtain ⟨part, partWithin, spells⟩ := spelled
  exact ⟨part, partWithin.trans within, spells⟩

/-- A statement spelled within a part of the tokens is spelled within them. -/
theorem DerivedWithin.mono
    {statement : Statement}
    (derived : DerivedWithin follows inner statement)
    (within : inner <:+: tokens) :
    DerivedWithin follows tokens statement := by
  obtain ⟨part, partWithin, derives⟩ := derived
  exact ⟨part, partWithin.trans within, derives⟩

/-- What all the tokens spell is spelled within them. -/
theorem Spells.within
    {expression : Expression}
    (spelled : Spells tokens expression) :
    SpelledWithin tokens expression :=
  ⟨tokens, List.infix_rfl, spelled⟩

/-- The first token of an expression is where the expression begins. -/
theorem SpelledWithin.exists_first
    {expression : Expression}
    (spelled : SpelledWithin tokens expression) :
    ∃ first later,
      first :: later <:+: tokens ∧ Spells (first :: later) expression ∧
        first.kind ≠ .endOfInput ∧ first.position = expression.position := by
  obtain ⟨part, within, spells⟩ := spelled
  obtain ⟨first, later, rfl, -, placed⟩ := spells.exists_first
  have notEnd := spells.kind_ne_endOfInput first List.mem_cons_self
  exact ⟨first, later, within, spells, notEnd, placed⟩

/-- The first token of a statement is where the statement begins. -/
theorem DerivedWithin.exists_first
    {statement : Statement}
    (derived : DerivedWithin follows tokens statement) :
    ∃ first later,
      first :: later <:+: tokens ∧
        Derives follows (.statement statement) (first :: later) ∧
        first.kind ≠ .endOfInput ∧ first.position = statement.position := by
  obtain ⟨part, within, derives⟩ := derived
  obtain ⟨first, later, rfl, -, placed⟩ := derives.exists_first
  have notEnd := derives.kind_ne_endOfInput first List.mem_cons_self
  exact ⟨first, later, within, derives, notEnd, placed⟩

/-- Every node of an expression is spelled among the tokens of the whole. -/
theorem Spells.within_of_mem_nodes
    {expression node : Expression}
    (spelled : Spells tokens expression)
    (member : node ∈ expression.nodes) :
    SpelledWithin tokens node := by
  induction spelled with
  | literal stands =>
      rw [List.mem_singleton.1 member]
      exact (Spells.literal stands).within
  | reference named =>
      rw [List.mem_singleton.1 member]
      exact (Spells.reference named).within
  | @unary sign operator tokens operand signed spelled hypothesis =>
      rcases List.mem_append.1 member with inOperand | isWhole
      · exact (hypothesis inOperand).mono (List.infix_cons List.infix_rfl)
      · rw [List.mem_singleton.1 isWhole]
        exact (Spells.unary signed spelled).within
  | @binary sign operator leftTokens rightTokens left right leftSpelled begins
      signed rightSpelled leftHypothesis rightHypothesis =>
      rcases List.mem_append.1 member with inLeft | behind
      · exact (leftHypothesis inLeft).mono (List.prefix_append ..).isInfix
      · rcases List.mem_append.1 behind with inRight | isWhole
        · have behindSign : rightTokens <:+: sign :: rightTokens :=
            List.infix_cons List.infix_rfl
          have rightWithin :=
            behindSign.trans (List.suffix_append leftTokens _).isInfix
          exact (rightHypothesis inRight).mono rightWithin
        · rw [List.mem_singleton.1 isWhole]
          exact (Spells.binary leftSpelled begins signed rightSpelled).within
  | @group opening closing tokens inner opens spelled closes hypothesis =>
      rcases List.mem_append.1 member with inInner | isWhole
      · exact (hypothesis inInner).mono
          (List.infix_append [opening] tokens [closing])
      · rw [List.mem_singleton.1 isWhole]
        exact (Spells.group opens spelled closes).within

/-- The arguments that the tokens spell are each spelled within them. -/
theorem SpellsArguments.within
    {arguments : List Expression}
    (spelled : SpellsArguments tokens arguments) :
    ∀ argument ∈ arguments, SpelledWithin tokens argument := by
  induction spelled with
  | none =>
      exact nofun
  | @more comma tokens later argument arguments separates spelled rest
      hypothesis =>
      rw [List.forall_mem_cons]
      refine ⟨spelled.within.mono (List.infix_append [comma] tokens later), ?_⟩
      intro other member
      have laterWithin : later <:+: comma :: (tokens ++ later) :=
        List.infix_cons (List.suffix_append tokens later).isInfix
      exact (hypothesis other member).mono laterWithin

/-- The expressions and the statements are all spelled among the tokens. -/
structure HoldsParts
    (follows : Statement → List Token → Prop)
    (tokens : List Token)
    (expressions : List Expression)
    (statements : List Statement) : Prop where
  spelled : ∀ expression ∈ expressions, SpelledWithin tokens expression
  derived : ∀ statement ∈ statements, DerivedWithin follows tokens statement

namespace HoldsParts

variable {expressions otherExpressions : List Expression}
variable {statements otherStatements : List Statement}

/-- Where there are no parts, all of them are spelled. -/
theorem nothing (tokens : List Token) : HoldsParts follows tokens [] [] :=
  ⟨nofun, nofun⟩

/-- Parts that are spelled within some tokens are spelled within more. -/
theorem mono
    (holds : HoldsParts follows inner expressions statements)
    (within : inner <:+: tokens) :
    HoldsParts follows tokens expressions statements where
  spelled expression member := (holds.spelled expression member).mono within
  derived statement member := (holds.derived statement member).mono within

/-- The parts of two rows are spelled if those of each row are. -/
theorem append
    (first : HoldsParts follows tokens expressions statements)
    (second : HoldsParts follows tokens otherExpressions otherStatements) :
    HoldsParts follows tokens (expressions ++ otherExpressions)
      (statements ++ otherStatements) where
  spelled := List.forall_mem_append.2 ⟨first.spelled, second.spelled⟩
  derived := List.forall_mem_append.2 ⟨first.derived, second.derived⟩

/-- A condition comes in front of what depends on it. -/
theorem behindCondition
    {condition : Expression}
    (spelled : SpelledWithin tokens condition)
    (holds : HoldsParts follows tokens expressions statements) :
    HoldsParts follows tokens (condition :: expressions) statements where
  spelled := List.forall_mem_cons.2 ⟨spelled, holds.spelled⟩
  derived := holds.derived

/-- A simple statement is spelled by all of its tokens. -/
theorem ofSimple
    {statement : Statement}
    (derived : Derives follows (.statement statement) tokens)
    (spelled : ∀ expression ∈ expressions, SpelledWithin tokens expression) :
    HoldsParts follows tokens expressions [statement] where
  spelled := spelled
  derived := List.forall_mem_singleton.2 ⟨tokens, List.infix_rfl, derived⟩

end HoldsParts

/-- The expressions in the phrase. -/
def Phrase.expressions : Phrase → List Expression
  | .statement inner => inner.expressions
  | .block body => Statement.blockExpressions body
  | .otherwise elseBody => Statement.elseExpressions elseBody
  | .sequence inner => Statement.blockExpressions inner

/-- The simple statements in the phrase. -/
def Phrase.simpleStatements : Phrase → List Statement
  | .statement inner => inner.simpleStatements
  | .block body => Statement.blockSimpleStatements body
  | .otherwise elseBody => Statement.elseSimpleStatements elseBody
  | .sequence inner => Statement.blockSimpleStatements inner

/-- A derived phrase has all of its parts among its tokens. -/
theorem Derives.holdsParts
    {phrase : Phrase}
    (derived : Derives follows phrase tokens) :
    HoldsParts follows tokens phrase.expressions phrase.simpleStatements := by
  induction derived with
  | @bind keyword name equals tokens value keyed named assigns spelled =>
      refine .ofSimple (.bind keyed named assigns spelled) ?_
      have valueWithin : tokens <:+: keyword :: name :: equals :: tokens :=
        (List.suffix_append [keyword, name, equals] tokens).isInfix
      exact List.forall_mem_singleton.2 (spelled.within.mono valueWithin)
  | @assign name equals tokens value named assigns spelled =>
      refine .ofSimple (.assign named assigns spelled) ?_
      have valueWithin : tokens <:+: name :: equals :: tokens :=
        (List.suffix_append [name, equals] tokens).isInfix
      exact List.forall_mem_singleton.2 (spelled.within.mono valueWithin)
  | @print keyword tokens later argument arguments keyed spelled rest =>
      refine .ofSimple (.print keyed spelled rest) ?_
      refine List.forall_mem_cons.2
        ⟨spelled.within.mono (List.infix_append [keyword] tokens later), ?_⟩
      intro other member
      have laterWithin : later <:+: keyword :: (tokens ++ later) :=
        List.infix_cons (List.suffix_append tokens later).isInfix
      exact (rest.within other member).mono laterWithin
  | @branch keyword conditionTokens thenTokens elseTokens condition thenBody
      elseBody keyed spelled thenDerived elseDerived thenHypothesis
      elseHypothesis =>
      have behind :
          thenTokens ++ elseTokens <:+:
            keyword :: (conditionTokens ++ (thenTokens ++ elseTokens)) :=
        List.infix_cons (List.suffix_append ..).isInfix
      have thenWithin :=
        (List.prefix_append thenTokens elseTokens).isInfix.trans behind
      have elseWithin :=
        (List.suffix_append thenTokens elseTokens).isInfix.trans behind
      exact .behindCondition
        (spelled.within.mono (List.infix_append [keyword] _ _))
        ((thenHypothesis.mono thenWithin).append
          (elseHypothesis.mono elseWithin))
  | @loop keyword conditionTokens bodyTokens condition body keyed spelled
      derived hypothesis =>
      have bodyWithin :
          bodyTokens <:+: keyword :: (conditionTokens ++ bodyTokens) :=
        List.infix_cons (List.suffix_append ..).isInfix
      exact .behindCondition
        (spelled.within.mono (List.infix_append [keyword] _ _))
        (hypothesis.mono bodyWithin)
  | evaluate spelled begins =>
      refine .ofSimple (.evaluate spelled begins) ?_
      exact List.forall_mem_singleton.2 spelled.within
  | @block opening closing tokens body opens derived closes hypothesis =>
      exact hypothesis.mono (List.infix_append [opening] tokens [closing])
  | noElse =>
      exact .nothing []
  | @elseBlock keyword tokens body keyed derived hypothesis =>
      exact hypothesis.mono (List.infix_cons List.infix_rfl)
  | @elseBranch keyword tokens position condition thenBody elseBody keyed
      derived hypothesis =>
      have behindElse : tokens <:+: keyword :: tokens :=
        List.infix_cons List.infix_rfl
      simpa [Phrase.expressions, Phrase.simpleStatements,
        Statement.elseExpressions, Statement.elseSimpleStatements,
        Statement.blockExpressions, Statement.blockSimpleStatements]
        using hypothesis.mono behindElse
  | empty =>
      exact .nothing []
  | @semicolon separator tokens statements separates derived hypothesis =>
      exact hypothesis.mono (List.infix_cons List.infix_rfl)
  | @next tokens later statement statements first allowed rest firstHypothesis
      restHypothesis =>
      exact (firstHypothesis.mono (List.prefix_append ..).isInfix).append
        (restHypothesis.mono (List.suffix_append ..).isInfix)

end Grammar

end OwlScript
