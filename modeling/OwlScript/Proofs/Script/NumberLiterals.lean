import Mathlib
import OwlScript.Proofs.Number.DecimalText
import OwlScript.Proofs.Parse.JoinedPrograms
import OwlScript.Proofs.Parse.LiteralTokens
import OwlScript.Proofs.Run.IntegerArithmetic
import OwlScript.Proofs.Script.SourceTokens

namespace OwlScript

/-!
# Number literals

Among the tokens of a source, an integer is a run of digits and a
floating-point number is digits with a point between them.  The latter can
always be read.  The former is a literal for what the digits say in decimal,
as long as that is below the limit of 64 bits with a sign.  That limit has one
side only, because a minus is an operator.  So every integer but the least one
comes back from its own text.
-/

/-- The number that the lexeme says in decimal, if it is a run of digits. -/
def Token.decimal (token : Token) : Nat :=
  Nat.ofDigitChars 10 token.lexeme.toList 0

/-- The lexeme is a run of digits. -/
def Token.IsWhole (token : Token) : Prop :=
  Number.isDigits token.lexeme.toList = true

/-- The lexeme is one point with digits on both of its sides. -/
def Token.IsPointed (token : Token) : Prop :=
  ∃ whole fraction,
    token.lexeme.toList = whole ++ '.' :: fraction ∧
      Number.isDigits whole = true ∧ Number.isDigits fraction = true

/-- The integer is a literal at the position. -/
def Program.HasIntegerAt
    (program : Program)
    (position : Position)
    (number : Int64) : Prop :=
  ∃ expression ∈ program.expressions,
    .literal position (.int number) ∈ expression.nodes

/--
What numbers are and become.  The parser comes to an integer where it notes
that it reads it, and then it takes it for a literal or stops at it.
-/
structure NumbersAreDecimal (tokens : List Token) : Prop where
  whole : ∀ token ∈ tokens, token.kind = .integer → token.IsWhole
  pointed : ∀ token ∈ tokens, token.kind = .float → token.IsPointed
  /-- No floating-point number is refused. -/
  neverMalformed :
    ∀ fault, Program.ofTokens tokens = .error fault →
      fault.message ≠ SyntaxFault.malformedFloat.message
  /-- An integer below the limit is taken for what it says. -/
  taken :
    ∀ token ∈ tokens, token.kind = .integer → token.decimal < 2 ^ 63 →
      ∃ number : Int64,
        number.toInt = token.decimal ∧
          ∀ (inside : Parse SizedExpression) (state : ParseState) later,
            state.rest = token :: later →
              Parse.primary inside state =
                .ok ⟨.literal token.position (.int number), 1⟩
                  { state.noting (.primary token.position .integer) with
                    rest := later }
  /-- At any other integer the parser stops. -/
  stopped :
    ∀ token ∈ tokens, token.kind = .integer → 2 ^ 63 ≤ token.decimal →
      ∀ (inside : Parse SizedExpression) (state : ParseState) later,
        state.rest = token :: later →
          Parse.primary inside state =
            .error (SyntaxFault.integerOutOfRange.located token.position)
              (state.noting (.primary token.position .integer))
  /-- The integers of a program are those among the tokens. -/
  literals :
    ∀ program, Program.ofTokens tokens = .ok program →
      (∀ token ∈ tokens, token.kind = .integer → token.decimal < 2 ^ 63) ∧
        ∀ position number,
          program.HasIntegerAt position number ↔
            ∃ token ∈ tokens,
              token.kind = .integer ∧ token.position = position ∧
                number.toInt = token.decimal
  /-- A program is refused at an integer if the parser comes to it. -/
  refused :
    ∀ token ∈ tokens, token.kind = .integer →
      (Program.ofTokens tokens =
          .error (SyntaxFault.integerOutOfRange.located token.position) ↔
        .primary token.position .integer ∈
            (Program.parse tokens).events.toList ∧
          2 ^ 63 ≤ token.decimal)

/-! ### Tokens of numbers -/

namespace Token

variable {token : Token}

/-- A span of the source that is an integer is a row of digits. -/
theorem isWhole_of_isSpan
    {span : List Char}
    (isSpan : IsSpan token.kind token.lexeme.toList span)
    (isInteger : token.kind = .integer) :
    token.IsWhole := by
  rw [isInteger] at isSpan
  unfold IsWhole
  generalize token.lexeme.toList = lexeme at isSpan
  cases isSpan with
  | integer notEmpty areDigits =>
      exact Number.isDigits_iff.2 ⟨notEmpty, areDigits⟩
  | plainSign member =>
      simp [plainSigns] at member
  | bareSign member =>
      simp [equalSigns] at member
  | pairedSign member =>
      simp [equalSigns] at member

/-- A span of the source that is a float has digits, a point and digits. -/
theorem isPointed_of_isSpan
    {span : List Char}
    (isSpan : IsSpan token.kind token.lexeme.toList span)
    (isFloat : token.kind = .float) :
    token.IsPointed := by
  rw [isFloat] at isSpan
  unfold IsPointed
  generalize token.lexeme.toList = lexeme at isSpan
  cases isSpan with
  | float wholeNotEmpty fractionNotEmpty wholeDigits fractionDigits =>
      exact ⟨_, _, rfl, Number.isDigits_iff.2 ⟨wholeNotEmpty, wholeDigits⟩,
        Number.isDigits_iff.2 ⟨fractionNotEmpty, fractionDigits⟩⟩
  | plainSign member =>
      simp [plainSigns] at member
  | bareSign member =>
      simp [equalSigns] at member
  | pairedSign member =>
      simp [equalSigns] at member

/-- A float with a point between digits can always be read. -/
theorem IsPointed.isSome_readFloat (isPointed : token.IsPointed) :
    (Number.readFloat token.lexeme).isSome = true := by
  obtain ⟨whole, fraction, shape, wholeDigits, fractionDigits⟩ := isPointed
  rw [Number.readFloat_of_point shape wholeDigits fractionDigits]
  rfl

/-- Below the limit the decimal is read exactly. -/
theorem IsWhole.exists_number
    (isWhole : token.IsWhole)
    (fits : token.decimal < 2 ^ 63) :
    ∃ number,
      Number.readInteger token.lexeme = some number ∧
        number.toInt = token.decimal := by
  have inRange : InRange token.decimal := by
    constructor <;> omega
  rw [inRange_iff_fitsInt64] at inRange
  refine ⟨Int64.ofInt token.decimal, ?_, ?_⟩
  · rw [Number.readInteger_of_isDigits isWhole]
    exact if_pos inRange
  · exact Int64.toInt_ofInt_of_le (by omega) (by omega)

/-- An integer that needs more than sixty-three bits cannot be read. -/
theorem IsWhole.readInteger_eq_none
    (isWhole : token.IsWhole)
    (exceeds : 2 ^ 63 ≤ token.decimal) :
    Number.readInteger token.lexeme = none := by
  have notInRange : ¬InRange token.decimal := by
    rintro ⟨-, high⟩
    omega
  rw [inRange_iff_fitsInt64] at notInRange
  rw [Number.readInteger_of_isDigits isWhole]
  exact if_neg notInRange

/-- An integer that is read is the decimal that is written. -/
theorem IsWhole.toInt_eq_decimal
    (isWhole : token.IsWhole)
    {number : Int64}
    (read : Number.readInteger token.lexeme = some number) :
    token.decimal < 2 ^ 63 ∧ number.toInt = token.decimal := by
  by_cases fits : token.decimal < 2 ^ 63
  · obtain ⟨other, readOther, isDecimal⟩ := isWhole.exists_number fits
    rw [read] at readOther
    cases readOther
    exact ⟨fits, isDecimal⟩
  · rw [isWhole.readInteger_eq_none (Nat.not_lt.1 fits)] at read
    cases read

/-- Only integers stand for integers. -/
theorem of_literal?_eq_int
    {number : Int64}
    (stands : token.literal? = some (.int number)) :
    token.kind = .integer ∧ Number.readInteger token.lexeme = some number := by
  unfold literal? at stands
  split at stands
  · next isInteger =>
      obtain ⟨other, read, same⟩ := Option.map_eq_some_iff.1 stands
      cases same
      exact ⟨isInteger, read⟩
  · obtain ⟨other, -, same⟩ := Option.map_eq_some_iff.1 stands
    cases same
  all_goals cases stands

end Token

/-! ### What becomes of the tokens of a source -/

/-- An integer in front is noted before it is read. -/
theorem Parse.primary_of_isInteger
    {token : Token}
    {later : List Token}
    {state : ParseState}
    (inside : Parse SizedExpression)
    (isNext : state.rest = token :: later)
    (isInteger : token.kind = .integer) :
    primary inside state =
      (match Number.readInteger token.lexeme with
        | some number => leaf (.literal token.position (.int number))
        | none =>
            throw (SyntaxFault.integerOutOfRange.located token.position))
        (state.noting (.primary token.position .integer)) := by
  obtain ⟨rest, ending, events⟩ := state
  cases isNext
  obtain ⟨kind, lexeme, position⟩ := token
  cases isInteger
  rfl

namespace Source

variable {source : Source}
variable {tokens : List Token}

/-- The integers among the tokens of a source are rows of digits. -/
theorem isWhole_of_mem
    (scanned : source.tokens = .ok tokens)
    {token : Token}
    (member : token ∈ tokens)
    (isInteger : token.kind = .integer) :
    token.IsWhole := by
  obtain ⟨span, isSpan⟩ :=
    exists_span_of_mem scanned member (by rw [isInteger]; decide)
  exact Token.isWhole_of_isSpan isSpan isInteger

/-- The floats among the tokens of a source have a point between digits. -/
theorem isPointed_of_mem
    (scanned : source.tokens = .ok tokens)
    {token : Token}
    (member : token ∈ tokens)
    (isFloat : token.kind = .float) :
    token.IsPointed := by
  obtain ⟨span, isSpan⟩ :=
    exists_span_of_mem scanned member (by rw [isFloat]; decide)
  exact Token.isPointed_of_isSpan isSpan isFloat

/-- An integer of a parsed source is a literal with a value that it has. -/
theorem exists_literal_of_mem
    (scanned : source.tokens = .ok tokens)
    {program : Program}
    (parsed : Program.ofTokens tokens = .ok program)
    {token : Token}
    (member : token ∈ tokens)
    (isInteger : token.kind = .integer) :
    ∃ number,
      Number.readInteger token.lexeme = some number ∧
        program.HasIntegerAt token.position number := by
  obtain ⟨derived, -⟩ := Program.derives_of_ofTokens_eq_ok parsed
  have inFront :=
    mem_takeWhile_of_mem scanned member (by rw [isInteger]; decide)
  obtain ⟨expression, isExpression, value, stands, isNode⟩ :=
    derived.numbersAreIn token inFront (by rw [isInteger]; rfl)
  simp only [Token.literal?, isInteger, Option.map_eq_some_iff] at stands
  obtain ⟨number, read, rfl⟩ := stands
  exact ⟨number, read, expression, isExpression, isNode⟩

/-- Every integer of a parsed source is a literal, and no other integers are. -/
theorem hasIntegerAt_iff
    (scanned : source.tokens = .ok tokens)
    {program : Program}
    (parsed : Program.ofTokens tokens = .ok program)
    (position : Position)
    (number : Int64) :
    program.HasIntegerAt position number ↔
      ∃ token ∈ tokens,
        token.kind = .integer ∧ token.position = position ∧
          number.toInt = token.decimal := by
  constructor
  · rintro ⟨expression, member, isNode⟩
    have holds := Program.holdsParts_of_ofTokens parsed
    obtain ⟨part, partWithin, spelled⟩ := holds.spelled expression member
    obtain ⟨literal, literalWithin, spells⟩ :=
      (spelled.within_of_mem_nodes isNode).mono partWithin
    cases spells with
    | @literal token _ stands =>
        have isToken := literalWithin.subset List.mem_cons_self
        obtain ⟨isInteger, read⟩ := Token.of_literal?_eq_int stands
        have isWhole := isWhole_of_mem scanned isToken isInteger
        exact ⟨token, isToken, isInteger, rfl,
          (isWhole.toInt_eq_decimal read).2⟩
  · rintro ⟨token, member, isInteger, rfl, isDecimal⟩
    obtain ⟨other, read, isLiteral⟩ :=
      exists_literal_of_mem scanned parsed member isInteger
    have isWhole := isWhole_of_mem scanned member isInteger
    have sameNumber : number = other := by
      rw [← Int64.toInt_inj, isDecimal, (isWhole.toInt_eq_decimal read).2]
    rwa [sameNumber]

/-- The parser stops at an integer if it comes to it and it is too great. -/
theorem refuses_iff
    (scanned : source.tokens = .ok tokens)
    {token : Token}
    (member : token ∈ tokens)
    (isInteger : token.kind = .integer) :
    Program.ofTokens tokens =
        .error (SyntaxFault.integerOutOfRange.located token.position) ↔
      .primary token.position .integer ∈
          (Program.parse tokens).events.toList ∧
        2 ^ 63 ≤ token.decimal := by
  have isWhole := isWhole_of_mem scanned member isInteger
  -- A fault and an event only tell a position, and that is of one token alone.
  have sameToken
      {other : Token}
      (otherMember : other ∈ tokens)
      (otherIsInteger : other.kind = .integer)
      (same : other.position = token.position) :
      other = token := by
    refine eq_of_position_eq scanned otherMember member ?_ ?_ same
    · rw [otherIsInteger]
      decide
    · rw [isInteger]
      decide
  constructor
  · intro refused
    obtain ⟨final, stops, events⟩ :=
      Program.exists_stopsWith_of_ofTokens refused
    rw [events]
    generalize isFault :
      SyntaxFault.integerOutOfRange.located token.position = fault at stops
    cases stops with
    | @atInteger other state otherMember otherIsInteger unreadable isAmong =>
        have samePosition : other.position = token.position :=
          (Option.some.inj (congrArg Diagnostic.position isFault)).symm
        obtain rfl := sameToken otherMember otherIsInteger samePosition
        refine ⟨by simp [ParseState.noting], Nat.le_of_not_lt fun fits => ?_⟩
        obtain ⟨number, read, -⟩ := isWhole.exists_number fits
        rw [unreadable] at read
        cases read
    | elsewhere _ otherMessage _ =>
        rw [← isFault] at otherMessage
        exact (otherMessage rfl).elim
  · rintro ⟨noted, exceeds⟩
    have unreadable := isWhole.readInteger_eq_none exceeds
    cases outcome : Program.ofTokens tokens with
    | ok program =>
        obtain ⟨number, read, -⟩ :=
          exists_literal_of_mem scanned outcome member isInteger
        rw [unreadable] at read
        cases read
    | error fault =>
        obtain ⟨final, stops, events⟩ :=
          Program.exists_stopsWith_of_ofTokens outcome
        rw [events] at noted
        -- Every integer noted before the last event was readable, so this is
        -- the last.
        have notReadable : ¬Token.HasInteger tokens token.position := by
          rintro ⟨other, otherMember, otherIsInteger, same, readable⟩
          rw [sameToken otherMember otherIsInteger same, unreadable]
            at readable
          cases readable
        cases stops with
        | @atInteger other state otherMember otherIsInteger _ isAmong =>
            simp only [ParseState.noting, Array.toList_push, List.mem_append,
              List.mem_singleton] at noted
            rcases noted with before | isLast
            · exact (notReadable (isAmong.integers _ before)).elim
            · rw [(ParseEvent.primary.inj isLast).1]
        | elsewhere _ _ isAmong =>
            exact (notReadable (isAmong.integers _ noted)).elim

/-- So the numbers of a source are decimals, and become what they say. -/
theorem numbersAreDecimal
    (scanned : source.tokens = .ok tokens) :
    NumbersAreDecimal tokens where
  whole _ := isWhole_of_mem scanned
  pointed _ := isPointed_of_mem scanned
  neverMalformed fault refused malformed := by
    obtain ⟨token, member, isFloat, unreadable⟩ :=
      (Program.isSyntaxFault_of_ofTokens refused).exists_float_of_message_eq
        malformed
    have readable := (isPointed_of_mem scanned member isFloat).isSome_readFloat
    rw [unreadable] at readable
    cases readable
  taken token member isInteger fits := by
    have isWhole := isWhole_of_mem scanned member isInteger
    obtain ⟨number, read, isDecimal⟩ := isWhole.exists_number fits
    refine ⟨number, isDecimal, fun inside state later isNext => ?_⟩
    rw [Parse.primary_of_isInteger inside isNext isInteger, read]
    obtain ⟨rest, ending, events⟩ := state
    cases isNext
    rfl
  stopped token member isInteger exceeds inside state later isNext := by
    have isWhole := isWhole_of_mem scanned member isInteger
    rw [Parse.primary_of_isInteger inside isNext isInteger,
      isWhole.readInteger_eq_none exceeds]
    rfl
  literals program parsed := by
    refine ⟨fun token member isInteger => ?_, hasIntegerAt_iff scanned parsed⟩
    obtain ⟨number, read, -⟩ :=
      exists_literal_of_mem scanned parsed member isInteger
    exact ((isWhole_of_mem scanned member isInteger).toInt_eq_decimal read).1
  refused _ := refuses_iff scanned

end Source

/-! ### Integers written and read again -/

/-- The token of the digits of a number, from a column of a text on. -/
def Token.ofDigits (column number : Nat) : Token :=
  ⟨.integer, String.ofList (Nat.toDigits 10 number), ⟨1, column⟩⟩

/-- A token made of the digits of a number is that number written out. -/
@[simp]
theorem Token.decimal_ofDigits (column number : Nat) :
    (ofDigits column number).decimal = number := by
  rw [decimal, ofDigits, String.toList_ofList, Nat.ofDigitChars_ten_toDigits]

/-- A token made of the digits of a number is a row of digits. -/
theorem Token.isWhole_ofDigits (column number : Nat) :
    (ofDigits column number).IsWhole := by
  rw [IsWhole, ofDigits, String.toList_ofList]
  exact Number.isDigits_toDigits number

/-- Digits by themselves are one token. -/
theorem splits_toDigits (column number : Nat) :
    Splits column (Nat.toDigits 10 number)
      [.ofDigits column number,
        ⟨.endOfInput, "",
          ⟨1, column + (Nat.toDigits 10 number).length⟩⟩] := by
  obtain ⟨notEmpty, areDigits⟩ :=
    Number.isDigits_iff.1 (Number.isDigits_toDigits number)
  have nothingBehind : TokenKind.integer.EndsBefore [] := ⟨nofun, nofun⟩
  simpa [Token.ofDigits] using
    Splits.of_isSpan (.integer notEmpty areDigits) nothingBehind
      (.nothing (column + (Nat.toDigits 10 number).length))

/-- Behind a minus they are a token of their own. -/
theorem splits_minus_toDigits (number : Nat) :
    Splits 1 ('-' :: Nat.toDigits 10 number)
      [⟨.minus, "-", ⟨1, 1⟩⟩, .ofDigits 2 number,
        ⟨.endOfInput, "", ⟨1, 2 + (Nat.toDigits 10 number).length⟩⟩] := by
  have isSign : ('-', TokenKind.minus) ∈ plainSigns := by
    decide
  exact .of_isSpan (.plainSign isSign) trivial (splits_toDigits 2 number)

/-- An expression by itself is parsed if it is flat enough. -/
theorem Program.ofTokens_of_spells
    {tokens : List Token}
    {ending : Token}
    {expression : Expression}
    (spelled : Grammar.Spells tokens expression)
    (precedence : expression.RespectsPrecedence)
    (nesting : expression.nesting < nestingLimit)
    (height : expression.height ≤ nestingLimit)
    (isEnd : ending.kind = .endOfInput) :
    ofTokens (tokens ++ [ending]) = .ok ⟨[.evaluate expression]⟩ := by
  refine (ofTokens_eq_ok_iff spelled.kind_ne_endOfInput isEnd _).2
    ⟨?_, ?_, ?_, ?_⟩
  · have maximal : Grammar.Maximal (.evaluate expression) [] := by
      rintro _ ⟨token, ⟨⟩, _⟩
    simpa using
      Grammar.Derives.next (.evaluate spelled spelled.beginsAt) maximal .empty
  · simpa [RespectsPrecedence, expressions, Statement.blockExpressions,
      Statement.expressions] using precedence
  · simp [Program.nesting, Statement.blockNesting, Statement.nesting]
    omega
  · simpa [expressions, Statement.blockExpressions,
      Statement.expressions] using height

/-- The digits of a number spell it as a literal. -/
theorem Grammar.spells_ofDigits
    (column : Nat)
    {magnitude : Nat}
    {number : Int64}
    (same : number.toInt = magnitude) :
    Spells [.ofDigits column magnitude]
      (.literal ⟨1, column⟩ (.int number)) := by
  have fits : (Token.ofDigits column magnitude).decimal < 2 ^ 63 := by
    have high := number.toInt_lt
    rw [Token.decimal_ofDigits]
    omega
  obtain ⟨other, read, isDecimal⟩ :=
    (Token.isWhole_ofDigits column magnitude).exists_number fits
  rw [Token.decimal_ofDigits, ← same, Int64.toInt_inj] at isDecimal
  have stands :
      (Token.ofDigits column magnitude).literal? = some (.int number) := by
    rw [← isDecimal]
    exact congrArg (Option.map Value.int) read
  exact .literal stands

namespace Value

/-- An integer that 64 bits hold is none other after it is checked. -/
theorem checkedInt_toInt (number : Int64) :
    checkedInt number.toInt = .ok (.int number) := by
  obtain ⟨other, checked, same⟩ := checkedInt_of_inRange (inRange_toInt number)
  rw [Int64.toInt_inj] at same
  rw [checked, same]

/-- The text of the value is an expression, and its value is the value again. -/
def ReadsBack (value : Value) : Prop :=
  ∃ tokens expression,
    tokensOfText value.text = .ok tokens ∧
      Program.ofTokens tokens = .ok ⟨[.evaluate expression]⟩ ∧
        ∀ globals, expression.evaluate globals = .ok (.exact value)

/-- A number that is not negative reads back from its digits. -/
theorem readsBack_of_nonneg
    {number : Int64}
    (notNegative : 0 ≤ number.toInt) :
    (int number).ReadsBack := by
  obtain ⟨magnitude, same⟩ := Int.eq_ofNat_of_zero_le notNegative
  have text : (int number).text.toList = Nat.toDigits 10 magnitude := by
    rw [Value.text, same]
    exact Number.toList_toString_natCast magnitude
  have scanned := splits_toDigits 1 magnitude
  rw [← text, ← tokensOfText_eq_ok_iff_splits] at scanned
  refine ⟨_, .literal ⟨1, 1⟩ (.int number), scanned, ?_, fun _ => rfl⟩
  exact Program.ofTokens_of_spells (Grammar.spells_ofDigits 1 same) trivial
    (by simp [Expression.nesting, nestingLimit])
    (by simp [Expression.height, nestingLimit]) rfl

/--
A negative number other than the least reads back from a minus sign and the
digits of its magnitude.
-/
theorem readsBack_of_neg
    {number : Int64}
    (negative : number.toInt < 0)
    (notLeast : number ≠ Int64.minValue) :
    (int number).ReadsBack := by
  have text :
      (int number).text.toList = '-' :: Nat.toDigits 10 number.toInt.natAbs :=
    Number.toList_toString_of_neg negative
  have above : -2 ^ 63 < number.toInt := by
    refine lt_of_le_of_ne number.le_toInt fun isLeast => notLeast ?_
    rw [← Int64.toInt_inj, ← isLeast]
    rfl
  obtain ⟨operand, same⟩ :
      ∃ operand : Int64, operand.toInt = number.toInt.natAbs :=
    ⟨_, Int64.toInt_ofInt_of_le (by omega) (by omega)⟩
  have scanned := splits_minus_toDigits number.toInt.natAbs
  rw [← text, ← tokensOfText_eq_ok_iff_splits] at scanned
  have spelled :
      Grammar.Spells [⟨.minus, "-", ⟨1, 1⟩⟩, .ofDigits 2 number.toInt.natAbs]
        (.unary ⟨1, 1⟩ .negate (.literal ⟨1, 2⟩ (.int operand))) :=
    .unary rfl (Grammar.spells_ofDigits 2 same)
  refine ⟨_, .unary ⟨1, 1⟩ .negate (.literal ⟨1, 2⟩ (.int operand)), scanned,
    ?_, fun globals => ?_⟩
  · exact Program.ofTokens_of_spells spelled ⟨rfl, trivial⟩
      (by simp [Expression.nesting, nestingLimit])
      (by simp [Expression.height, nestingLimit]) rfl
  · have negated : (int operand).negated = .ok (.int number) := by
      have isNumber : -operand.toInt = number.toInt := by
        omega
      rw [Value.negated, isNumber, checkedInt_toInt]
    have stored : (Stored.exact (int operand)).value.negated = _ := negated
    simp only [Expression.evaluate, Expression.placed, bind, Except.bind,
      stored]
    rfl

end Value

/--
The numbers of every source are decimals.  Every integer but the least one
comes back from its own text, and the text of the least one is refused.
-/
theorem number_literals_mean_their_decimal :
    (∀ (source : Source) (tokens : List Token),
      source.tokens = .ok tokens → NumbersAreDecimal tokens) ∧
    (∀ number : Int64,
      number ≠ Int64.minValue → (Value.int number).ReadsBack) ∧
    ∃ tokens,
      tokensOfText (Value.int Int64.minValue).text = .ok tokens ∧
        Program.ofTokens tokens =
          .error (SyntaxFault.integerOutOfRange.located ⟨1, 2⟩) := by
  refine ⟨fun _ _ => Source.numbersAreDecimal, ?_, ?_⟩
  · intro number notLeast
    rcases lt_or_ge number.toInt 0 with negative | notNegative
    · exact Value.readsBack_of_neg negative notLeast
    · exact Value.readsBack_of_nonneg notNegative
  · exact ⟨[⟨.minus, "-", ⟨1, 1⟩⟩,
      ⟨.integer, "9223372036854775808", ⟨1, 2⟩⟩,
      ⟨.endOfInput, "", ⟨1, 21⟩⟩], rfl, rfl⟩

/-- A literal with zeros in front, and the least integer that is read back. -/
theorem literals_with_zeros_and_at_the_limit :
    NumbersAreDecimal
        [⟨.integer, "007", ⟨1, 1⟩⟩, ⟨.float, "1.50", ⟨1, 5⟩⟩,
          ⟨.endOfInput, "", ⟨1, 9⟩⟩] ∧
      Token.decimal ⟨.integer, "007", ⟨1, 1⟩⟩ = 7 ∧
        (Value.int (-9223372036854775807)).ReadsBack :=
  ⟨number_literals_mean_their_decimal.1 (.text "007 1.50") _ rfl, rfl,
    number_literals_mean_their_decimal.2.1 _ (by decide)⟩

end OwlScript
