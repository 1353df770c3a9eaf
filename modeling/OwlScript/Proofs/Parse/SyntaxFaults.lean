import OwlScript.Proofs.Parse.Reading

namespace OwlScript

/-!
# Faults of the parser

A fault stands at a token, or where tokens end, and what it says of the script
is the lexeme of one of the tokens.  A number that is refused is one that
cannot be read.  No parser goes on behind an integer that it has noted but
cannot read, so at every moment all integers noted before can be read.
-/

/-- Some token other than an end token stands at the position. -/
def Token.StandsAt (tokens : List Token) (position : Position) : Prop :=
  ∃ token ∈ tokens, token.kind ≠ .endOfInput ∧ token.position = position

/-- The position is that of a token or that of the end of the tokens. -/
def Token.IsPlace (tokens : List Token) (position : Position) : Prop :=
  position = (ParseState.ofTokens tokens).ending ∨
    ∃ token ∈ tokens, token.position = position

/-- An integer that can be read stands at the position. -/
def Token.HasInteger (tokens : List Token) (position : Position) : Prop :=
  ∃ token ∈ tokens,
    token.kind = .integer ∧ token.position = position ∧
      (Number.readInteger token.lexeme).isSome = true

/-- The fault names no token, and it is not that a number cannot be read. -/
def SyntaxFault.IsPlain : SyntaxFault → Prop
  | .integerOutOfRange => False
  | .malformedFloat => False
  | .unexpectedToken _ => False
  | _ => True

/-- The fault is that a number cannot be read. -/
def SyntaxFault.IsOfNumber : SyntaxFault → Prop
  | .integerOutOfRange => True
  | .malformedFloat => True
  | _ => False

/-- The diagnostics that a parser may give on tokens. -/
inductive IsSyntaxFault (tokens : List Token) : Diagnostic → Prop where
  | plain
      {fault : SyntaxFault}
      {position : Position}
      (isPlain : fault.IsPlain)
      (isPlace : Token.IsPlace tokens position) :
      IsSyntaxFault tokens (fault.located position)
  /-- No expression begins with the token. -/
  | unexpected
      {token : Token}
      (member : token ∈ tokens)
      (notString : token.kind ≠ .string) :
      IsSyntaxFault tokens
        ((SyntaxFault.unexpectedToken token.lexeme).located token.position)
  /-- Another kind of token was expected. -/
  | found
      {fault : SyntaxFault}
      {token : Token}
      (isPlain : fault.IsPlain)
      (member : token ∈ tokens)
      (notEnd : token.kind ≠ .endOfInput) :
      IsSyntaxFault tokens
        ((fault.located token.position).withNote
          ("found `" ++ token.lexeme ++ "`"))
  | tooDeep
      {position : Position}
      (isPlace : Token.IsPlace tokens position) :
      IsSyntaxFault tokens (tooDeepAt position)
  | integer
      {token : Token}
      (member : token ∈ tokens)
      (isInteger : token.kind = .integer)
      (unreadable : Number.readInteger token.lexeme = none) :
      IsSyntaxFault tokens
        (SyntaxFault.integerOutOfRange.located token.position)
  | float
      {token : Token}
      (member : token ∈ tokens)
      (isFloat : token.kind = .float)
      (unreadable : Number.readFloat token.lexeme = none) :
      IsSyntaxFault tokens (SyntaxFault.malformedFloat.located token.position)

variable {tokens : List Token}

namespace Token

/-- Where a token stands is a place of the tokens. -/
theorem StandsAt.isPlace
    {position : Position}
    (standsAt : StandsAt tokens position) :
    IsPlace tokens position := by
  obtain ⟨token, member, _, same⟩ := standsAt
  exact .inr ⟨token, member, same⟩

/-- If there are tokens at all, they end at the last of them. -/
theorem IsPlace.exists_of_ne_nil
    {position : Position}
    (isPlace : IsPlace tokens position)
    (notEmpty : tokens ≠ []) :
    ∃ token ∈ tokens, token.position = position := by
  rcases isPlace with rfl | isOfToken
  · refine ⟨tokens.getLast notEmpty, List.getLast_mem notEmpty, ?_⟩
    simp only [ParseState.ofTokens, List.getLast?_eq_some_getLast notEmpty]
  · exact isOfToken

end Token

namespace IsSyntaxFault

variable {fault : Diagnostic}

/-- Every fault that tokens can have is one of the parser. -/
theorem isOfParser (isFault : IsSyntaxFault tokens fault) :
    fault.stage = .parser := by
  cases isFault <;> rfl

/-- Every fault that tokens can have tells its place among them. -/
theorem exists_place (isFault : IsSyntaxFault tokens fault) :
    ∃ position, fault.position = some position ∧
      Token.IsPlace tokens position := by
  cases isFault with
  | plain isPlain isPlace =>
      exact ⟨_, rfl, isPlace⟩
  | unexpected member notString =>
      exact ⟨_, rfl, .inr ⟨_, member, rfl⟩⟩
  | found isPlain member notEnd =>
      exact ⟨_, rfl, .inr ⟨_, member, rfl⟩⟩
  | tooDeep isPlace =>
      exact ⟨_, rfl, isPlace⟩
  | integer member isInteger unreadable =>
      exact ⟨_, rfl, .inr ⟨_, member, rfl⟩⟩
  | float member isFloat unreadable =>
      exact ⟨_, rfl, .inr ⟨_, member, rfl⟩⟩

end IsSyntaxFault

namespace SyntaxFault

variable {fault number : SyntaxFault}

/-- No plain fault has the words for a number that cannot be read. -/
theorem IsPlain.message_ne
    (isPlain : fault.IsPlain)
    (isOfNumber : number.IsOfNumber) :
    fault.message ≠ number.message := by
  cases fault with
  | integerOutOfRange =>
      exact isPlain.elim
  | malformedFloat =>
      exact isPlain.elim
  | unexpectedToken lexeme =>
      exact isPlain.elim
  | _ =>
      cases number with
      | integerOutOfRange =>
          decide
      | malformedFloat =>
          decide
      | _ =>
          cases isOfNumber

/-- Nor does the fault that names a token. -/
theorem unexpectedToken_message_ne
    (isOfNumber : number.IsOfNumber)
    (lexeme : String) :
    (unexpectedToken lexeme).message ≠ number.message := by
  intro same
  have characters := congrArg String.toList same
  unfold message at characters
  rw [String.toList_append, String.toList_append, List.append_assoc]
    at characters
  cases number with
  | integerOutOfRange =>
      cases characters
  | malformedFloat =>
      cases characters
  | _ =>
      cases isOfNumber

end SyntaxFault

/-- Only a float that cannot be read is called malformed. -/
theorem IsSyntaxFault.exists_float_of_message_eq
    {fault : Diagnostic}
    (isFault : IsSyntaxFault tokens fault)
    (same : fault.message = SyntaxFault.malformedFloat.message) :
    ∃ token ∈ tokens,
      token.kind = .float ∧ Number.readFloat token.lexeme = none := by
  cases isFault with
  | plain isPlain isPlace =>
      exact absurd same (isPlain.message_ne (by trivial))
  | unexpected member notString =>
      exact absurd same (SyntaxFault.unexpectedToken_message_ne (by trivial) _)
  | found isPlain member notEnd =>
      exact absurd same (isPlain.message_ne (by trivial))
  | tooDeep isPlace =>
      have isPlain : SyntaxFault.tooDeep.IsPlain := trivial
      exact absurd same (isPlain.message_ne (by trivial))
  | integer member isInteger unreadable =>
      exact absurd same (by decide : SyntaxFault.integerOutOfRange.message ≠ _)
  | float member isFloat unreadable =>
      exact ⟨_, member, isFloat, unreadable⟩

namespace ParseState

/--
What is still to be read is among the tokens, and they end where they do.  All
integers that have been noted can be read.
-/
structure IsAmong
    (tokens : List Token)
    (state : ParseState) : Prop where
  rest : state.rest ⊆ tokens
  ending : state.ending = (ParseState.ofTokens tokens).ending
  integers :
    ∀ position, .primary position .integer ∈ state.events.toList →
      Token.HasInteger tokens position

/-- The state with one more event. -/
def noting (event : ParseEvent) (state : ParseState) : ParseState :=
  { state with events := state.events.push event }

/--
How a parser stops on tokens: right behind the note of an integer that cannot
be read, or for another reason.
-/
inductive StopsWith (tokens : List Token) : Diagnostic → ParseState → Prop where
  | atInteger
      {token : Token}
      {state : ParseState}
      (member : token ∈ tokens)
      (isInteger : token.kind = .integer)
      (unreadable : Number.readInteger token.lexeme = none)
      (isAmong : state.IsAmong tokens) :
      StopsWith tokens
        (SyntaxFault.integerOutOfRange.located token.position)
        (state.noting (.primary token.position .integer))
  | elsewhere
      {fault : Diagnostic}
      {state : ParseState}
      (isFault : IsSyntaxFault tokens fault)
      (other : fault.message ≠ SyntaxFault.integerOutOfRange.message)
      (isAmong : state.IsAmong tokens) :
      StopsWith tokens fault state

variable {state : ParseState}

/-- At the start, the state is among the tokens. -/
theorem isAmong_ofTokens (tokens : List Token) :
    (ParseState.ofTokens tokens).IsAmong tokens :=
  ⟨List.Subset.refl tokens, rfl, nofun⟩

/-- The state stays among the tokens with an event that may be recorded. -/
theorem IsAmong.noting
    (isAmong : state.IsAmong tokens)
    {event : ParseEvent}
    (readable :
      ∀ position, event = .primary position .integer →
        Token.HasInteger tokens position) :
    (state.noting event).IsAmong tokens where
  rest := isAmong.rest
  ending := isAmong.ending
  integers := by
    intro position member
    simp only [ParseState.noting, Array.toList_push, List.mem_append,
      List.mem_singleton] at member
    rcases member with before | isNew
    · exact isAmong.integers position before
    · exact readable position isNew.symm

/-- A parser stops only with a fault that the tokens can have. -/
theorem StopsWith.isSyntaxFault
    {fault : Diagnostic}
    (stops : StopsWith tokens fault state) :
    IsSyntaxFault tokens fault := by
  cases stops with
  | atInteger member isInteger unreadable isAmong =>
      exact .integer member isInteger unreadable
  | elsewhere isFault other isAmong =>
      exact isFault

end ParseState

end OwlScript
