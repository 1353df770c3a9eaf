import OwlScript.Proofs.Number.FloatOrder
import OwlScript.Run.Evaluation

namespace OwlScript

/-!
# Equality and order

Two values of one type, or two numbers, are ordered by one order, and all
operators that compare by order agree on it.  Equality looks at two integers
as floating-point numbers instead, and two different integers may be the same
one there.  That is the only case in which equality and order disagree.
-/

namespace Value

/-- Whether no operator that compares by order refuses the two values. -/
def CanBeOrdered (left right : Value) : Prop :=
  ∀ operator, ∃ truth, order operator left right = .ok truth

/-- Whether the value is the float that is not a number. -/
def isNaN : Value → Bool
  | .float number => number.isNaN
  | _ => false

/-- Whether the values are two different integers with one nearest double. -/
def Collide : Value → Value → Prop
  | .int left, .int right =>
      left ≠ right ∧ (floatOfInt left == floatOfInt right) = true
  | _, _ => False

/-- Only two different integers can collide. -/
theorem Collide.exists_int
    {left right : Value}
    (collide : left.Collide right) :
    ∃ leftNumber rightNumber,
      left = .int leftNumber ∧ right = .int rightNumber ∧
        leftNumber ≠ rightNumber := by
  cases left with
  | int leftNumber =>
      cases right with
      | int rightNumber =>
          exact ⟨leftNumber, rightNumber, rfl, rfl, collide.1⟩
      | _ =>
          cases collide
  | _ =>
      cases collide

/-- The order of two values that can be ordered. -/
def ordering? (left right : Value) : Option Ordering :=
  match left, right with
  | .string leftText, .string rightText => some (compare leftText rightText)
  | .int leftNumber, .int rightNumber =>
      some (compare leftNumber.toInt rightNumber.toInt)
  | _, _ =>
      match left.toFloat?, right.toFloat? with
      | some leftNumber, some rightNumber =>
          floatOrdering? leftNumber rightNumber
      | _, _ => none

/-- Values that can be ordered and are numbers have an order. -/
theorem exists_ordering?
    {left right : Value}
    (canBeOrdered : left.CanBeOrdered right)
    (leftIsNumber : left.isNaN = false)
    (rightIsNumber : right.isNaN = false) :
    ∃ ordering, left.ordering? right = some ordering := by
  obtain ⟨truth, isOrdered⟩ := canBeOrdered .less
  unfold order at isOrdered
  split at isOrdered
  · exact ⟨_, rfl⟩
  · exact ⟨_, rfl⟩
  · next notStrings notIntegers =>
      split at isOrdered
      · next leftNumber rightNumber leftFloat rightFloat =>
          have leftOrdered : leftNumber.isNaN = false := by
            cases left <;> cases leftFloat
            · exact Number.isNaN_floatOfInt _
            · exact leftIsNumber
          have rightOrdered : rightNumber.isNaN = false := by
            cases right <;> cases rightFloat
            · exact Number.isNaN_floatOfInt _
            · exact rightIsNumber
          obtain ⟨ordering, ordered⟩ :=
            Number.exists_floatOrdering? leftOrdered rightOrdered
          refine ⟨ordering, ?_⟩
          simp only [ordering?, leftFloat, rightFloat]
          exact ordered
      · cases isOrdered

/-- Values in an order are compared by it. -/
theorem order_of_ordering?
    {left right : Value}
    {ordering : Ordering}
    (ordered : left.ordering? right = some ordering)
    (operator : OrderOperator) :
    order operator left right = .ok (orderHolds operator ordering) := by
  unfold ordering? at ordered
  split at ordered
  · cases ordered
    rfl
  · cases ordered
    rfl
  · next notStrings notIntegers =>
      split at ordered
      · next leftNumber rightNumber leftFloat rightFloat =>
          simp only [order, leftFloat, rightFloat, ordered, Option.any_some]
      · cases ordered

/-- Exchanging two values turns their order round. -/
theorem ordering?_swap (left right : Value) :
    right.ordering? left = (left.ordering? right).map Ordering.swap := by
  cases left with
  | nil =>
      cases right <;> rfl
  | bool leftTruth =>
      cases right <;> rfl
  | int leftNumber =>
      cases right with
      | int rightNumber =>
          have swapped :
              compare rightNumber.toInt leftNumber.toInt =
                (compare leftNumber.toInt rightNumber.toInt).swap :=
            Std.OrientedCmp.eq_swap
          exact congrArg some swapped
      | float rightNumber =>
          exact Number.floatOrdering?_swap (floatOfInt leftNumber) rightNumber
      | _ =>
          rfl
  | float leftNumber =>
      cases right with
      | int rightNumber =>
          exact Number.floatOrdering?_swap leftNumber (floatOfInt rightNumber)
      | float rightNumber =>
          exact Number.floatOrdering?_swap leftNumber rightNumber
      | _ =>
          rfl
  | string leftText =>
      cases right with
      | string rightText =>
          have swapped :
              compare rightText leftText = (compare leftText rightText).swap :=
            Std.OrientedCmp.eq_swap
          exact congrArg some swapped
      | _ =>
          rfl

/-- Equal integers are equal as doubles; different ones are if they collide. -/
theorem equals_int_iff (left right : Int64) :
    (Value.int left).equals (.int right) = true ↔
      left = right ∨ (Value.int left).Collide (.int right) := by
  by_cases same : left = right
  · subst same
    have itself := Number.floatOrdering?_self (Number.isNaN_floatOfInt left)
    have equal := (Number.float_beq_iff_floatOrdering? _ _).mpr itself
    simpa [equals, toFloat?] using equal
  · simp [equals, toFloat?, Collide, same]

/-- Two values are equal if neither comes first, or if they collide. -/
theorem equals_iff_of_ordering?
    {left right : Value}
    {ordering : Ordering}
    (ordered : left.ordering? right = some ordering) :
    left.equals right = true ↔ ordering = .eq ∨ left.Collide right := by
  unfold ordering? at ordered
  split at ordered
  · next leftText rightText =>
      cases ordered
      simp [equals, toFloat?, Collide]
  · next leftNumber rightNumber =>
      cases ordered
      rw [equals_int_iff, Std.compare_eq_iff_eq, Int64.toInt_inj]
  · next notStrings notIntegers =>
      have apart : ¬left.Collide right := by
        intro collide
        obtain ⟨_, _, isLeft, isRight, _⟩ := collide.exists_int
        exact notIntegers _ _ isLeft isRight
      split at ordered
      · next leftNumber rightNumber leftFloat rightFloat =>
          have equal :=
            Number.float_beq_iff_floatOrdering? leftNumber rightNumber
          rw [ordered] at equal
          simpa [equals, leftFloat, rightFloat, apart] using equal
      · cases ordered

/-- Values that are equal as they stand never collide. -/
theorem not_collide_of_ordering?_eq
    {left right : Value}
    (ordered : left.ordering? right = some .eq) :
    ¬left.Collide right := by
  intro collide
  obtain ⟨leftNumber, rightNumber, rfl, rfl, differ⟩ := collide.exists_int
  have same : compare leftNumber.toInt rightNumber.toInt = .eq :=
    Option.some.inj ordered
  rw [Std.compare_eq_iff_eq, Int64.toInt_inj] at same
  exact differ same

end Value

namespace Expression

variable {globals : Globals}
variable {left right : Expression}

/-- Whether the expression evaluates to true. -/
def IsTrue (globals : Globals) (expression : Expression) : Prop :=
  expression.evaluate globals = .ok (.truth true)

/--
Whether equality agrees with the order of what two expressions evaluate to, as
far as the operators between them can tell.
-/
structure EqualityAgrees
    (globals : Globals)
    (left right : Expression) :
    Prop where
  less_or_equal_or_greater :
    IsTrue globals (.binary (.order .less) left right) ∨
      IsTrue globals (.binary .equal left right) ∨
      IsTrue globals (.binary (.order .greater) left right)
  less_not_equal :
    IsTrue globals (.binary (.order .less) left right) →
      ¬IsTrue globals (.binary .equal left right)
  less_not_greater :
    IsTrue globals (.binary (.order .less) left right) →
      ¬IsTrue globals (.binary (.order .greater) left right)
  equal_not_greater :
    IsTrue globals (.binary .equal left right) →
      ¬IsTrue globals (.binary (.order .greater) left right)
  lessEqual_iff :
    IsTrue globals (.binary (.order .lessEqual) left right) ↔
      IsTrue globals (.binary (.order .less) left right) ∨
        IsTrue globals (.binary .equal left right)
  greaterEqual_iff :
    IsTrue globals (.binary (.order .greaterEqual) left right) ↔
      IsTrue globals (.binary (.order .greater) left right) ∨
        IsTrue globals (.binary .equal left right)
  notEqual_iff :
    IsTrue globals (.binary .notEqual left right) ↔
      ¬IsTrue globals (.binary .equal left right)
  less_iff_greater :
    IsTrue globals (.binary (.order .less) left right) ↔
      IsTrue globals (.binary (.order .greater) right left)

/-- Placing a value that was found changes nothing. -/
@[simp]
theorem placed_ok (expression : Expression) (value : α) :
    expression.placed (.ok value) = .ok value :=
  rfl

/-- An expression with a truth value holds if that is true. -/
theorem isTrue_iff_of_evaluate
    {expression : Expression}
    {truth : Bool}
    (evaluates : expression.evaluate globals = .ok (.truth truth)) :
    IsTrue globals expression ↔ truth = true := by
  unfold IsTrue
  rw [evaluates]
  constructor
  · intro same
    cases same
    rfl
  · rintro rfl
    rfl

section Evaluated

variable {first second : Stored}
variable (leftEvaluates : left.evaluate globals = .ok first)
variable (rightEvaluates : right.evaluate globals = .ok second)

include leftEvaluates rightEvaluates

/-- A comparison holds if the order of its operands says so. -/
theorem isTrue_order_iff
    {ordering : Ordering}
    (ordered : first.value.ordering? second.value = some ordering)
    (operator : OrderOperator) :
    IsTrue globals (.binary (.order operator) left right) ↔
      Value.orderHolds operator ordering = true := by
  apply isTrue_iff_of_evaluate
  have holds := Value.order_of_ordering? ordered operator
  simp only [evaluate, leftEvaluates, rightEvaluates, bind, Except.bind,
    holds, placed_ok, pure, Except.pure]

/-- An equation holds if its operands are equal values. -/
theorem isTrue_equal_iff :
    IsTrue globals (.binary .equal left right) ↔
      first.value.equals second.value = true := by
  apply isTrue_iff_of_evaluate
  simp only [evaluate, leftEvaluates, rightEvaluates, bind, Except.bind,
    pure, Except.pure]

/-- An inequation holds if the equation does not. -/
theorem isTrue_notEqual_iff :
    IsTrue globals (.binary .notEqual left right) ↔
      ¬IsTrue globals (.binary .equal left right) := by
  rw [isTrue_equal_iff leftEvaluates rightEvaluates, Bool.not_eq_true,
    ← Bool.not_eq_true']
  apply isTrue_iff_of_evaluate
  simp only [evaluate, leftEvaluates, rightEvaluates, bind, Except.bind,
    pure, Except.pure]

/-- In every order of the two values, all operators between them agree. -/
theorem equalityAgrees_of_not_collide
    {ordering : Ordering}
    (ordered : first.value.ordering? second.value = some ordering)
    (apart : ¬first.value.Collide second.value) :
    EqualityAgrees globals left right := by
  have orders := isTrue_order_iff leftEvaluates rightEvaluates ordered
  have notEqual := isTrue_notEqual_iff leftEvaluates rightEvaluates
  have equal :
      IsTrue globals (.binary .equal left right) ↔ ordering = .eq := by
    rw [isTrue_equal_iff leftEvaluates rightEvaluates,
      Value.equals_iff_of_ordering? ordered]
    simp only [apart, or_false]
  have converse :
      IsTrue globals (.binary (.order .greater) right left) ↔
        Value.orderHolds .greater ordering.swap = true := by
    apply isTrue_order_iff rightEvaluates leftEvaluates
    rw [Value.ordering?_swap, ordered]
    rfl
  constructor <;> simp only [orders, equal, converse, notEqual] <;>
    cases ordering <;> decide

/-- Values that collide are equal, and yet one of them comes first. -/
theorem not_equalityAgrees_of_collide
    {ordering : Ordering}
    (ordered : first.value.ordering? second.value = some ordering)
    (collide : first.value.Collide second.value) :
    ¬EqualityAgrees globals left right := by
  intro agrees
  have orders := isTrue_order_iff leftEvaluates rightEvaluates ordered
  have equal : IsTrue globals (.binary .equal left right) := by
    rw [isTrue_equal_iff leftEvaluates rightEvaluates,
      Value.equals_iff_of_ordering? ordered]
    exact .inr collide
  cases ordering with
  | lt =>
      exact agrees.less_not_equal ((orders .less).mpr rfl) equal
  | eq =>
      exact Value.not_collide_of_ordering?_eq ordered collide
  | gt =>
      exact agrees.equal_not_greater equal ((orders .greater).mpr rfl)

/--
Equality agrees with order, unless two different integers have one nearest
double.  Otherwise integers are equal exactly if they are the same.
-/
theorem equalityAgrees_iff_not_collide
    (canBeOrdered : first.value.CanBeOrdered second.value)
    (leftIsNumber : first.value.isNaN = false)
    (rightIsNumber : second.value.isNaN = false) :
    (EqualityAgrees globals left right ↔
      ¬first.value.Collide second.value) ∧
    (∀ leftNumber rightNumber,
      first.value = .int leftNumber →
      second.value = .int rightNumber →
      ((IsTrue globals (.binary .equal left right) ↔
          leftNumber = rightNumber) ↔
        ¬first.value.Collide second.value)) := by
  obtain ⟨ordering, ordered⟩ :=
    Value.exists_ordering? canBeOrdered leftIsNumber rightIsNumber
  constructor
  · constructor
    · intro agrees collide
      exact not_equalityAgrees_of_collide leftEvaluates rightEvaluates ordered
        collide agrees
    · exact equalityAgrees_of_not_collide leftEvaluates rightEvaluates ordered
  · intro leftNumber rightNumber isLeft isRight
    rw [isTrue_equal_iff leftEvaluates rightEvaluates, isLeft, isRight,
      Value.equals_int_iff]
    constructor
    · intro same collide
      exact collide.1 (same.mp (.inr collide))
    · intro apart
      simp only [apart, or_false]

end Evaluated

/-- The least integer without a double of its own, and the one below. -/
theorem not_equalityAgrees_two_pow_fiftyThree_succ :
    ¬EqualityAgrees .empty
      (.literal .start (.int 9007199254740993))
      (.literal .start (.int 9007199254740992)) := by
  have collide :
      (Value.int 9007199254740993).Collide (.int 9007199254740992) :=
    ⟨by decide, by decide⟩
  intro agrees
  exact (equalityAgrees_iff_not_collide rfl rfl (fun _ => ⟨_, rfl⟩) rfl
    rfl).1.mp agrees collide

end Expression

end OwlScript
