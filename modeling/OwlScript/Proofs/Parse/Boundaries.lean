import OwlScript.Proofs.Parse.Grammar

namespace OwlScript

/-!
# What stands behind a phrase

A parser looks at the next token to decide whether a phrase goes on.  In a
program only a few kinds of tokens may stand behind a statement, behind all
statements of a block, and behind the arguments of a statement, and none of
them goes on with what stands in front.
-/

namespace Grammar

/-- The first of the tokens may stand behind a statement. -/
def BeginsBehind (tokens : List Token) : Prop :=
  ∀ token ∈ tokens.head?,
    token.kind = .semicolon ∨ token.kind = .rightBrace ∨
      token.kind = .endOfInput ∨ token.kind.opensStatement = true

/-- The first of the tokens ends the statements of a program or a block. -/
def Closes (closing : Option TokenKind) (tokens : List Token) : Prop :=
  ∀ token ∈ tokens.head?,
    token.kind = .endOfInput ∨ some token.kind = closing

/-- A token behind a statement is none of the kinds that would continue it. -/
theorem BeginsBehind.kind_ne
    {tokens : List Token}
    {kind : TokenKind}
    (behind : BeginsBehind tokens)
    (notSemicolon : kind ≠ .semicolon)
    (notBrace : kind ≠ .rightBrace)
    (notEnd : kind ≠ .endOfInput)
    (notOpening : kind.opensStatement = false) :
    ∀ token ∈ tokens.head?, token.kind ≠ kind := by
  rintro token member rfl
  rcases behind token member with separates | braces | ends | opens
  · exact notSemicolon separates
  · exact notBrace braces
  · exact notEnd ends
  · rw [notOpening] at opens
    cases opens

/-- Where a program or a body is closed, a statement may end. -/
theorem Closes.beginsBehind
    {closing : Option TokenKind}
    {tokens : List Token}
    (closes : Closes closing tokens)
    (known : closing = none ∨ closing = some .rightBrace) :
    BeginsBehind tokens := by
  intro token member
  rcases closes token member with ends | braces
  · exact .inr (.inr (.inl ends))
  · rcases known with rfl | rfl
    · cases braces
    · exact .inr (.inl (Option.some.inj braces))

/-- Where a program or a body is closed, no operator stands next. -/
theorem Closes.not_beginsWithOperator
    {closing : Option TokenKind}
    {tokens : List Token}
    (closes : Closes closing tokens)
    (known : closing = none ∨ closing = some .rightBrace) :
    ¬BeginsWithOperator tokens := by
  rintro ⟨token, member, isOperator⟩
  rcases closes token member with ends | braces
  · rw [ends] at isOperator
    cases isOperator
  · rcases known with rfl | rfl
    · cases braces
    · rw [Option.some.inj braces] at isOperator
      cases isOperator

/-- Nothing of a program is left in front of its end token. -/
theorem Closes.takeWhile_eq_nil
    {tokens : List Token}
    (closes : Closes none tokens) :
    (tokens.takeWhile fun token => token.kind != .endOfInput) = [] := by
  cases tokens with
  | nil =>
      rfl
  | cons token tokens =>
      rcases closes token rfl with ends | impossible
      · simp [ends]
      · cases impossible

/-- What is left of a program begins with its end token, or is nothing. -/
theorem Closes.dropWhile_eq_self
    {tokens : List Token}
    (closes : Closes none tokens) :
    (tokens.dropWhile fun token => token.kind != .endOfInput) = tokens := by
  have parts :=
    tokens.takeWhile_append_dropWhile (p := (·.kind != .endOfInput))
  rwa [closes.takeWhile_eq_nil, List.nil_append] at parts

/-- A token whose kind is no operator does not begin with one. -/
theorem not_beginsWithOperator_of_kind
    {token : Token}
    {tokens : List Token}
    {kind : TokenKind}
    (same : token.kind = kind)
    (noOperator : kind.binaryOperator? = none) :
    ¬BeginsWithOperator (token :: tokens) := by
  rintro ⟨first, member, isOperator⟩
  cases member
  rw [same, noOperator] at isOperator
  cases isOperator

/-- What comes behind the first argument never goes on with it. -/
theorem SpellsArguments.not_beginsWithOperator
    {tokens later : List Token}
    {arguments : List Expression}
    (spelled : SpellsArguments tokens arguments)
    (ends : ¬BeginsWithOperator later) :
    ¬BeginsWithOperator (tokens ++ later) := by
  cases spelled with
  | none =>
      exact ends
  | more separates _ _ =>
      exact not_beginsWithOperator_of_kind separates rfl

variable {follows : Statement → List Token → Prop}

/-- A block does not go on with the expression in front of it. -/
theorem Derives.not_beginsWithOperator
    {body : List Statement}
    {tokens : List Token}
    (derived : Derives follows (.block body) tokens)
    (later : List Token) :
    ¬BeginsWithOperator (tokens ++ later) := by
  cases derived with
  | block opens _ _ =>
      exact not_beginsWithOperator_of_kind opens rfl

/-- Statements behind each other are behind a statement as well. -/
theorem Derives.beginsBehind
    {statements : List Statement}
    {tokens later : List Token}
    (derived : Derives follows (.sequence statements) tokens)
    (behind : BeginsBehind later) :
    BeginsBehind (tokens ++ later) := by
  cases derived with
  | empty =>
      exact behind
  | semicolon separates rest =>
      intro token member
      cases member
      exact .inl separates
  | next first allowed rest =>
      obtain ⟨opening, more, shape, opens, _⟩ := first.exists_first
      subst shape
      intro token member
      cases member
      exact .inr (.inr (.inr opens))

/-- An identifier that begins an expression is not the target of a value. -/
theorem Spells.second_kind_ne_assign
    {tokens : List Token}
    {expression : Expression}
    (spelled : Spells tokens expression)
    {first second : Token}
    {rest : List Token}
    (shape : tokens = first :: second :: rest)
    (named : first.kind = .identifier) :
    second.kind ≠ .assign := by
  induction spelled generalizing first second rest with
  | literal stands =>
      cases shape
  | reference named =>
      cases shape
  | unary signed spelled hypothesis =>
      cases shape
      rw [named] at signed
      cases signed
  | @binary sign operator leftTokens rightTokens left right leftSpelled
      begins signed rightSpelled leftHypothesis rightHypothesis =>
      obtain ⟨opening, more, leftShape, _, _⟩ := leftSpelled.exists_first
      subst leftShape
      cases more with
      | nil =>
          cases shape
          intro assigns
          rw [assigns] at signed
          cases signed
      | cons next more =>
          cases shape
          exact leftHypothesis rfl named
  | group opens spelled closes hypothesis =>
      obtain ⟨rfl, _⟩ := List.cons.inj shape
      rw [named] at opens
      cases opens

end Grammar

end OwlScript
