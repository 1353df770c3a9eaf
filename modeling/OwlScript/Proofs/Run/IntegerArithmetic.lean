import Mathlib
import OwlScript.Proofs.Program.Parts
import OwlScript.Run.Evaluation

namespace OwlScript

/-!
# Exact integers

An expression of integers has a value in the arithmetic of all integers, as
long as nothing is divided by zero.  Evaluation computes that value if 64 bits
hold it and the values of all operands.  Otherwise it fails at the first node
for which they do not, where operands come first and the left one before the
right one.
-/

/-- Whether 64 bits with a sign hold the integer. -/
def InRange (number : Int) : Prop :=
  -2 ^ 63 ≤ number ∧ number ≤ 2 ^ 63 - 1

/-- A machine integer is in range. -/
theorem inRange_toInt (number : Int64) : InRange number.toInt := by
  have low := number.le_toInt
  have high := number.toInt_lt
  exact ⟨low, by omega⟩

/-- An integer is in range if it fits into sixty-four bits. -/
theorem inRange_iff_fitsInt64 (number : Int) :
    InRange number ↔ Number.fitsInt64 number = true := by
  have greatest : Int64.maxValue.toInt = 2 ^ 63 - 1 := by decide
  have least : Int64.minValue.toInt = -2 ^ 63 := by decide
  simp [Number.fitsInt64, InRange, greatest, least]

/-- Only one quotient of an integer in range is out of range. -/
theorem inRange_tdiv
    {left right : Int}
    (fits : InRange left)
    (notLeast : ¬(left = -2 ^ 63 ∧ right = -1)) :
    InRange (left.tdiv right) := by
  obtain ⟨low, high⟩ := fits
  have magnitude : (left.tdiv right).natAbs ≤ left.natAbs := by
    rw [Int.natAbs_tdiv]
    exact Nat.div_le_self _ _
  refine ⟨by omega, Int.not_lt.1 fun exceeds => ?_⟩
  have quotient : left.tdiv right = 2 ^ 63 := by omega
  have notZero : right ≠ 0 := by
    rintro rfl
    rw [Int.tdiv_zero] at quotient
    omega
  have whole := Int.mul_tdiv_add_tmod left right
  have sign : 0 ≤ -left.tmod right := by
    rw [← Int.neg_tmod]
    exact Int.tmod_nonneg right (by omega)
  have smaller : (left.tmod right).natAbs < right.natAbs := by
    rw [Int.natAbs_tmod]
    exact Nat.mod_lt _ (by omega)
  rw [quotient] at whole
  omega

namespace ArithmeticOperator

/-- Whether the right operand is a divisor. -/
def divides : ArithmeticOperator → Bool
  | .divide => true
  | .remainder => true
  | _ => false

/--
The result on two of all integers.  Division cuts toward zero, the remainder
has the sign of the dividend, and there is neither for a zero divisor.
-/
def exactResult?
    (operator : ArithmeticOperator)
    (left right : Int) :
    Option Int :=
  match operator with
  | .add => some (left + right)
  | .subtract => some (left - right)
  | .multiply => some (left * right)
  | .divide => if right = 0 then none else some (left.tdiv right)
  | .remainder => if right = 0 then none else some (left.tmod right)

/-- No division by zero has an exact result. -/
theorem exactResult?_zero
    {operator : ArithmeticOperator}
    (divides : operator.divides = true)
    (left : Int) :
    operator.exactResult? left 0 = none := by
  cases operator with
  | divide =>
      rfl
  | remainder =>
      rfl
  | _ =>
      cases divides

end ArithmeticOperator

namespace Value

/-- The integer that the value is, if it is one. -/
def integer? : Value → Option Int
  | .int number => some number.toInt
  | _ => none

/-- An integer that fits is given back as it is. -/
theorem checkedInt_of_inRange
    {result : Int}
    (fits : InRange result) :
    ∃ number : Int64,
      checkedInt result = .ok (.int number) ∧ number.toInt = result := by
  refine ⟨Int64.ofInt result, ?_, ?_⟩
  · rw [inRange_iff_fitsInt64] at fits
    simp [checkedInt, Number.checkedInt64, fits]
  · have high := fits.2
    exact Int64.toInt_ofInt_of_le fits.1 (by omega)

/-- A result that is out of range is an overflow. -/
theorem checkedInt_of_not_inRange
    {result : Int}
    (exceeds : ¬InRange result) :
    checkedInt result = .error .integerOverflow := by
  rw [inRange_iff_fitsInt64] at exceeds
  simp [checkedInt, Number.checkedInt64, exceeds]

/--
What comes of an operator on two integers: the exact result, if it has one in
range and is not the remainder whose quotient has none, or else the fault.
-/
inductive ComesTo (operator : ArithmeticOperator) (left right : Int) :
    Except RuntimeFault Value → Prop where
  | exact
      {number : Int64}
      (result : operator.exactResult? left right = some number.toInt)
      (notLeast :
        ¬(operator = .remainder ∧ left = -2 ^ 63 ∧ right = -1)) :
      ComesTo operator left right (.ok (.int number))
  | zeroDivisor
      (divides : operator.divides = true)
      (isZero : right = 0) :
      ComesTo operator left right (.error .divisionByZero)
  | leastRemainder
      (isRemainder : operator = .remainder)
      (isLeast : left = -2 ^ 63)
      (isMinusOne : right = -1) :
      ComesTo operator left right (.error .integerOverflow)
  | outOfRange
      {result : Int}
      (isResult : operator.exactResult? left right = some result)
      (exceeds : ¬InRange result) :
      ComesTo operator left right (.error .integerOverflow)

/-- A result that only has to be checked. -/
theorem ComesTo.of_checkedInt
    {operator : ArithmeticOperator}
    {left right result : Int}
    (isResult : operator.exactResult? left right = some result)
    (notLeast : ¬(operator = .remainder ∧ left = -2 ^ 63 ∧ right = -1)) :
    ComesTo operator left right (checkedInt result) := by
  by_cases fits : InRange result
  · obtain ⟨number, checked, rfl⟩ := checkedInt_of_inRange fits
    rw [checked]
    exact .exact isResult notLeast
  · rw [checkedInt_of_not_inRange fits]
    exact .outOfRange isResult fits

/-- The arithmetic of integers comes to what the operator exactly gives. -/
theorem comesTo_integerArithmetic
    (operator : ArithmeticOperator)
    {left : Int}
    (leftFits : InRange left)
    (right : Int) :
    ComesTo operator left right (integerArithmetic operator left right) := by
  cases operator with
  | add =>
      exact .of_checkedInt rfl nofun
  | subtract =>
      exact .of_checkedInt rfl nofun
  | multiply =>
      exact .of_checkedInt rfl nofun
  | divide =>
      rw [integerArithmetic]
      split
      · next isZero =>
          exact .zeroDivisor rfl isZero
      · next notZero =>
          exact .of_checkedInt (if_neg notZero) nofun
  | remainder =>
      rw [integerArithmetic]
      split
      · next isZero =>
          exact .zeroDivisor rfl isZero
      · next notZero =>
          by_cases isLeast : left = -2 ^ 63 ∧ right = -1
          · have exceeds : ¬InRange (left.tdiv right) := by
              rw [isLeast.1, isLeast.2]
              rintro ⟨_, high⟩
              exact absurd high (by decide)
            rw [checkedInt_of_not_inRange exceeds]
            exact .leastRemainder rfl isLeast.1 isLeast.2
          · obtain ⟨quotient, checked, _⟩ :=
              checkedInt_of_inRange (inRange_tdiv leftFits isLeast)
            rw [checked]
            exact .of_checkedInt (if_neg notZero) fun least => isLeast least.2

end Value

namespace Expression

/-- Integers, opposites of integers, and what is computed from two of them. -/
inductive IsInteger (globals : Globals) : Expression → Prop where
  | literal (position : Position) (number : Int64) :
      IsInteger globals (.literal position (.int number))
  | reference
      {name : String}
      {stored : Stored}
      {number : Int64}
      (bound : globals.get? name = some stored)
      (isInt : stored.value = .int number)
      (position : Position) :
      IsInteger globals (.reference position name)
  | negate
      {operand : Expression}
      (isInteger : IsInteger globals operand)
      (position : Position) :
      IsInteger globals (.unary position .negate operand)
  | group
      {inner : Expression}
      (isInteger : IsInteger globals inner)
      (position : Position) :
      IsInteger globals (.group position inner)
  | arithmetic
      {left right : Expression}
      (leftIsInteger : IsInteger globals left)
      (rightIsInteger : IsInteger globals right)
      (operator : ArithmeticOperator) :
      IsInteger globals (.binary (.arithmetic operator) left right)

/-- The value in the arithmetic of all integers, if there is one. -/
def exactValue? (globals : Globals) : Expression → Option Int
  | .literal _ value => value.integer?
  | .reference _ name =>
      (globals.get? name).bind fun stored => stored.value.integer?
  | .unary _ .negate operand =>
      (operand.exactValue? globals).map fun value => -value
  | .binary (.arithmetic operator) left right =>
      (left.exactValue? globals).bind fun first =>
        (right.exactValue? globals).bind fun second =>
          operator.exactResult? first second
  | .group _ inner => inner.exactValue? globals
  | _ => none

/-- Whether the expression is a division or a remainder by zero. -/
def HasZeroDivisor (globals : Globals) : Expression → Prop
  | .binary (.arithmetic operator) _ right =>
      operator.divides = true ∧ right.exactValue? globals = some 0
  | _ => False

/-- Whether the expression is the least integer modulo minus one. -/
def IsLeastRemainder (globals : Globals) : Expression → Prop
  | .binary (.arithmetic operator) left right =>
      operator = .remainder ∧ left.exactValue? globals = some (-2 ^ 63) ∧
        right.exactValue? globals = some (-1)
  | _ => False

/-- Whether 64 bits are enough for the last step of the expression. -/
structure Computes (globals : Globals) (expression : Expression) : Prop where
  inRange : ∃ value, expression.exactValue? globals = some value ∧ InRange value
  divisorNotZero : ¬expression.HasZeroDivisor globals
  notLeastRemainder : ¬expression.IsLeastRemainder globals

/-- All nodes compute, and evaluation gives the exact value. -/
structure EvaluatesExactly
    (globals : Globals)
    (expression : Expression)
    (number : Int64) : Prop where
  computes : ∀ node ∈ expression.nodes, node.Computes globals
  evaluated : expression.evaluate globals = .ok (.exact (.int number))
  exact : expression.exactValue? globals = some number.toInt

/-- Evaluation fails at the first node that does not compute. -/
structure FailsAtFirst
    (globals : Globals)
    (expression : Expression)
    (before : List Expression)
    (node : Expression)
    (behind : List Expression) : Prop where
  shape : expression.nodes = before ++ node :: behind
  computes : ∀ earlier ∈ before, earlier.Computes globals
  fails : ¬node.Computes globals
  zeroDivisor :
    node.HasZeroDivisor globals →
      expression.evaluate globals =
        .error (.located .runtime "division by zero" node.position)
  overflow :
    ¬node.HasZeroDivisor globals →
      expression.evaluate globals =
        .error (.located .runtime "integer overflow" node.position)

variable {globals : Globals}
variable {expression inner node : Expression}

/-- An operand fails first if all nodes in front of it compute. -/
theorem FailsAtFirst.within
    {before behind : List Expression}
    (failsAtFirst : inner.FailsAtFirst globals before node behind)
    (front : List Expression)
    {rest : List Expression}
    (shape : expression.nodes = front ++ (inner.nodes ++ rest))
    (computes : ∀ earlier ∈ front, earlier.Computes globals)
    (evaluated :
      ∀ fault, inner.evaluate globals = .error fault →
        expression.evaluate globals = .error fault) :
    expression.FailsAtFirst globals (front ++ before) node
      (behind ++ rest) where
  shape := by
    rw [shape, failsAtFirst.shape]
    simp
  computes := List.forall_mem_append.2 ⟨computes, failsAtFirst.computes⟩
  fails := failsAtFirst.fails
  zeroDivisor isZero := evaluated _ (failsAtFirst.zeroDivisor isZero)
  overflow notZero := evaluated _ (failsAtFirst.overflow notZero)

/-- An expression whose operands compute fails first if it does not. -/
theorem FailsAtFirst.own
    {front : List Expression}
    (shape : expression.nodes = front ++ [expression])
    (computes : ∀ earlier ∈ front, earlier.Computes globals)
    (fails : ¬expression.Computes globals)
    {fault : RuntimeFault}
    (evaluated :
      expression.evaluate globals = .error (fault.located expression.position))
    (isFault :
      fault = .divisionByZero ∧ expression.HasZeroDivisor globals ∨
        fault = .integerOverflow ∧ ¬expression.HasZeroDivisor globals) :
    expression.FailsAtFirst globals front expression [] where
  shape := shape
  computes := computes
  fails := fails
  zeroDivisor := by
    intro isZero
    rcases isFault with ⟨rfl, _⟩ | ⟨_, notZero⟩
    · exact evaluated
    · exact absurd isZero notZero
  overflow := by
    intro notZero
    rcases isFault with ⟨_, isZero⟩ | ⟨rfl, _⟩
    · exact absurd isZero notZero
    · exact evaluated

/-- The last step of an opposite. -/
theorem evaluate_negate
    {operand : Expression}
    {number : Int64}
    (evaluated : operand.evaluate globals = .ok (.exact (.int number)))
    (position : Position) :
    (unary position .negate operand).evaluate globals =
      (unary position .negate operand).placed
        ((Value.checkedInt (-number.toInt)).map Stored.exact) := by
  rw [evaluate, evaluated]
  change (do
    let value ← placed _ (Value.checkedInt (-number.toInt))
    return Stored.exact value) = _
  cases Value.checkedInt (-number.toInt) <;> rfl

/-- The last step of an operator that computes. -/
theorem evaluate_arithmetic
    {left right : Expression}
    {first second : Int64}
    (leftEvaluated : left.evaluate globals = .ok (.exact (.int first)))
    (rightEvaluated : right.evaluate globals = .ok (.exact (.int second)))
    (operator : ArithmeticOperator) :
    (binary (.arithmetic operator) left right).evaluate globals =
      left.placed
        ((Value.integerArithmetic operator first.toInt second.toInt).map
          Stored.exact) := by
  simp only [evaluate, leftEvaluated, rightEvaluated]
  cases operator <;> rfl

/-- Both operands are exact, and all depends on the operator. -/
theorem evaluates_or_fails_arithmetic
    {left right : Expression}
    {first second : Int64}
    (leftExactly : left.EvaluatesExactly globals first)
    (rightExactly : right.EvaluatesExactly globals second)
    (operator : ArithmeticOperator) :
    (∃ number,
      (binary (.arithmetic operator) left right).EvaluatesExactly globals
        number) ∨
      ∃ before node behind,
        (binary (.arithmetic operator) left right).FailsAtFirst globals before
          node behind := by
  have evaluated :=
    evaluate_arithmetic leftExactly.evaluated rightExactly.evaluated operator
  have exact :
      (binary (.arithmetic operator) left right).exactValue? globals =
        operator.exactResult? first.toInt second.toInt := by
    simp [exactValue?, leftExactly.exact, rightExactly.exact]
  have zeroDivisor :
      (binary (.arithmetic operator) left right).HasZeroDivisor globals ↔
        operator.divides = true ∧ second.toInt = 0 := by
    simp [HasZeroDivisor, rightExactly.exact]
  have leastRemainder :
      (binary (.arithmetic operator) left right).IsLeastRemainder globals ↔
        operator = .remainder ∧ first.toInt = -2 ^ 63 ∧
          second.toInt = -1 := by
    simp [IsLeastRemainder, leftExactly.exact, rightExactly.exact]
  have shape :
      (binary (.arithmetic operator) left right).nodes =
        (left.nodes ++ right.nodes) ++
          [binary (.arithmetic operator) left right] := by
    simp [nodes]
  have computes :
      ∀ earlier ∈ left.nodes ++ right.nodes, earlier.Computes globals :=
    List.forall_mem_append.2 ⟨leftExactly.computes, rightExactly.computes⟩
  have comes :=
    Value.comesTo_integerArithmetic operator (inRange_toInt first)
      second.toInt
  -- A result excludes a zero divisor, so the two faults exclude each other.
  have notZero
      {result : Int}
      (isResult :
        operator.exactResult? first.toInt second.toInt = some result) :
      ¬(binary (.arithmetic operator) left right).HasZeroDivisor globals := by
    rw [zeroDivisor]
    rintro ⟨divides, isZero⟩
    rw [isZero, ArithmeticOperator.exactResult?_zero divides] at isResult
    cases isResult
  generalize Value.integerArithmetic operator first.toInt second.toInt =
    result at comes evaluated
  cases comes with
  | @exact number isResult notLeast =>
      refine .inl ⟨number, ?_, evaluated, exact.trans isResult⟩
      rw [shape]
      refine List.forall_mem_append.2 ⟨computes, ?_⟩
      refine List.forall_mem_singleton.2 ⟨?_, notZero isResult, ?_⟩
      · exact ⟨_, exact.trans isResult, inRange_toInt number⟩
      · rwa [leastRemainder]
  | zeroDivisor divides isZero =>
      have divisorIsZero := zeroDivisor.2 ⟨divides, isZero⟩
      refine .inr ⟨_, _, _, .own shape computes ?_ evaluated
        (.inl ⟨rfl, divisorIsZero⟩)⟩
      exact fun computes => computes.divisorNotZero divisorIsZero
  | leastRemainder isRemainder isLeast isMinusOne =>
      refine .inr ⟨_, _, _, .own shape computes ?_ evaluated (.inr ⟨rfl, ?_⟩)⟩
      · intro computes
        exact computes.notLeastRemainder
          (leastRemainder.2 ⟨isRemainder, isLeast, isMinusOne⟩)
      · rw [zeroDivisor, isMinusOne]
        exact fun isZero => absurd isZero.2 (by decide)
  | outOfRange isResult exceeds =>
      refine .inr ⟨_, _, _, .own shape computes ?_ evaluated
        (.inr ⟨rfl, notZero isResult⟩)⟩
      rintro ⟨⟨value, isValue, fits⟩, _, _⟩
      rw [exact, isResult] at isValue
      cases isValue
      exact exceeds fits

/-- Either evaluation is exact, or it fails at the first node that it has to. -/
theorem IsInteger.evaluates_or_fails
    (isInteger : expression.IsInteger globals) :
    (∃ number, expression.EvaluatesExactly globals number) ∨
      ∃ before node behind,
        expression.FailsAtFirst globals before node behind := by
  induction isInteger with
  | literal position number =>
      refine .inl ⟨number, ?_, rfl, rfl⟩
      exact List.forall_mem_singleton.2
        ⟨⟨_, rfl, inRange_toInt number⟩, id, id⟩
  | @reference name stored number bound isInt position =>
      have exact :
          (Expression.reference position name).exactValue? globals =
            some number.toInt := by
        simp [exactValue?, bound, isInt, Value.integer?]
      refine .inl ⟨number, ?_, ?_, exact⟩
      · exact List.forall_mem_singleton.2
          ⟨⟨_, exact, inRange_toInt number⟩, id, id⟩
      · simp [evaluate, bound, isInt]
  | @group inner isInteger position hypothesis =>
      rcases hypothesis with ⟨number, exactly⟩ | ⟨before, node, behind, fails⟩
      · refine .inl ⟨number, ?_, exactly.evaluated, exactly.exact⟩
        refine List.forall_mem_append.2 ⟨exactly.computes, ?_⟩
        exact List.forall_mem_singleton.2
          ⟨⟨_, exactly.exact, inRange_toInt number⟩, id, id⟩
      · exact .inr ⟨_, _, _, fails.within [] rfl nofun fun _ => id⟩
  | @negate operand isInteger position hypothesis =>
      rcases hypothesis with ⟨number, exactly⟩ | ⟨before, node, behind, fails⟩
      · have exact :
            (Expression.unary position .negate operand).exactValue? globals =
              some (-number.toInt) := by
          simp [exactValue?, exactly.exact]
        by_cases fits : InRange (-number.toInt)
        · obtain ⟨result, checked, same⟩ := Value.checkedInt_of_inRange fits
          refine .inl ⟨result, ?_, ?_, by rw [exact, same]⟩
          · refine List.forall_mem_append.2 ⟨exactly.computes, ?_⟩
            exact List.forall_mem_singleton.2 ⟨⟨_, exact, fits⟩, id, id⟩
          · rw [evaluate_negate exactly.evaluated, checked]
            rfl
        · refine .inr ⟨_, _, _, .own rfl exactly.computes ?_ ?_
            (.inr ⟨rfl, id⟩)⟩
          · rintro ⟨⟨value, isValue, valueFits⟩, _, _⟩
            rw [exact] at isValue
            cases isValue
            exact fits valueFits
          · rw [evaluate_negate exactly.evaluated,
              Value.checkedInt_of_not_inRange fits]
            rfl
      · refine .inr ⟨_, _, _, fails.within [] rfl nofun ?_⟩
        intro fault failed
        rw [evaluate, failed]
        rfl
  | @arithmetic left right leftIsInteger rightIsInteger operator
      leftHypothesis rightHypothesis =>
      rcases leftHypothesis with
        ⟨first, leftExactly⟩ | ⟨before, node, behind, fails⟩
      · rcases rightHypothesis with
          ⟨second, rightExactly⟩ | ⟨before, node, behind, fails⟩
        · exact evaluates_or_fails_arithmetic leftExactly rightExactly operator
        · refine .inr ⟨_, _, _,
            fails.within _ rfl leftExactly.computes ?_⟩
          intro fault failed
          rw [evaluate, leftExactly.evaluated, failed]
          rfl
      · refine .inr ⟨_, _, _, fails.within [] rfl nofun ?_⟩
        intro fault failed
        rw [evaluate, failed]
        rfl

/--
Evaluation gives the exact value if and only if 64 bits are enough for every
node.  If they are not, it fails at the first node for which they are not.
-/
theorem evaluate_exact_iff_computes
    (isInteger : expression.IsInteger globals) :
    ((∃ number : Int64,
        expression.evaluate globals = .ok (.exact (.int number)) ∧
          expression.exactValue? globals = some number.toInt) ↔
      ∀ node ∈ expression.nodes, node.Computes globals) ∧
    (¬(∀ node ∈ expression.nodes, node.Computes globals) →
      ∃ before node behind,
        expression.FailsAtFirst globals before node behind) := by
  rcases isInteger.evaluates_or_fails with
    ⟨number, exactly⟩ | ⟨before, node, behind, fails⟩
  · refine ⟨⟨fun _ => exactly.computes, fun _ => ?_⟩, ?_⟩
    · exact ⟨number, exactly.evaluated, exactly.exact⟩
    · exact fun someFails => absurd exactly.computes someFails
  · have isNode : node ∈ expression.nodes := by
      simp [fails.shape]
    refine ⟨⟨?_, fun computes => absurd (computes node isNode) fails.fails⟩, ?_⟩
    · rintro ⟨number, evaluated, _⟩
      by_cases isZero : node.HasZeroDivisor globals
      · rw [fails.zeroDivisor isZero] at evaluated
        cases evaluated
      · rw [fails.overflow isZero] at evaluated
        cases evaluated
    · exact fun _ => ⟨before, node, behind, fails⟩

/-- The least integer as a variable. -/
def leastBound : Globals :=
  ⟨[("x", .exact (.int (-9223372036854775808)))]⟩

/-- The least integer modulo minus one, added to a division by zero. -/
def leastRemainderThenDivision : Expression :=
  .binary (.arithmetic .add)
    (.binary (.arithmetic .remainder) (.reference ⟨1, 7⟩ "x")
      (.unary ⟨1, 11⟩ .negate (.literal ⟨1, 12⟩ (.int 1))))
    (.binary (.arithmetic .divide) (.literal ⟨1, 16⟩ (.int 1))
      (.literal ⟨1, 20⟩ (.int 0)))

/--
Neither the remainder nor the quotient can be computed, so there is a node of
the sum at which it fails first.
-/
theorem leastRemainderThenDivision_failsAtFirst :
    leastRemainderThenDivision.IsInteger leastBound ∧
      ∃ before node behind,
        leastRemainderThenDivision.FailsAtFirst leastBound before node
          behind := by
  have isInteger : leastRemainderThenDivision.IsInteger leastBound :=
    .arithmetic
      (.arithmetic (.reference rfl rfl _) (.negate (.literal _ _) _) _)
      (.arithmetic (.literal _ _) (.literal _ _) _) _
  refine ⟨isInteger, (evaluate_exact_iff_computes isInteger).2 ?_⟩
  intro computes
  have division :=
    computes
      (.binary (.arithmetic .divide) (.literal ⟨1, 16⟩ (.int 1))
        (.literal ⟨1, 20⟩ (.int 0)))
      (by simp [leastRemainderThenDivision, nodes])
  exact division.divisorNotZero ⟨rfl, rfl⟩

/-- It is the remainder that fails first, and not the division. -/
example :
    leastRemainderThenDivision.evaluate leastBound =
      .error (.located .runtime "integer overflow" ⟨1, 7⟩) :=
  rfl

end Expression

end OwlScript
