import OwlScript.Proofs.Except
import OwlScript.Proofs.Program.Parts
import OwlScript.Run.Evaluation
import OwlScript.Run.Memory

namespace OwlScript

/-!
# Room for stored texts

Only the joining of two texts makes more room than its result takes, and never
more than twice as much, or the least room if that is more.  What else is done
with the result, other than to put it in parentheses, makes an exact copy.
-/

namespace Value

/-- The bytes of a text; other values have none. -/
def textBytes : Value → Nat
  | .string text => text.utf8ByteSize
  | _ => 0

/-- The most room that is ever made for the value. -/
def mostRoom : Value → Nat
  | .string text => max leastRoom (2 * text.utf8ByteSize)
  | _ => 0

end Value

/-- Room made for two texts in turn is enough for both. -/
theorem le_reservedForJoin (left right : Nat) :
    left + right ≤ reservedForJoin left right := by
  unfold reservedForJoin reservedAfterAppend
  grind

/--
Two texts that are joined reserve no more than twice their bytes, or the least
room.
-/
theorem reservedForJoin_le (left right : Nat) :
    reservedForJoin left right ≤ max leastRoom (2 * (left + right)) := by
  unfold reservedForJoin reservedAfterAppend leastRoom
  grind

namespace Expression

/-- The expression without the parentheses around it. -/
def ungrouped : Expression → Expression
  | .group _ inner => inner.ungrouped
  | other => other

/-- The expression is a sum, which joins its operands if they are texts. -/
def IsSum (expression : Expression) : Prop :=
  ∃ left right, expression.ungrouped = .binary (.arithmetic .add) left right

end Expression

/--
How a value is stored that comes of an expression: with no bytes to spare, or
as it was joined if the expression is a sum.
-/
inductive Stored.ComesOf (expression : Expression) : Stored → Prop where
  | exact
      (value : Value) :
      ComesOf expression (.exact value)
  | joined
      (isSum : expression.IsSum)
      (left right : String) :
      ComesOf expression (.joined left right)

namespace Stored.ComesOf

variable {expression : Expression}
variable {stored : Stored}

/-- There is room for the text, and not much more. -/
theorem reserved_bounds (comesOf : stored.ComesOf expression) :
    stored.value.textBytes ≤ stored.reserved ∧
      stored.reserved ≤ stored.value.mostRoom := by
  cases comesOf with
  | exact value =>
      cases value with
      | string text =>
          have twice : text.utf8ByteSize ≤ 2 * text.utf8ByteSize :=
            Nat.le_mul_of_pos_left _ Nat.two_pos
          exact ⟨Nat.le_refl _, Nat.le_trans twice (Nat.le_max_right _ _)⟩
      | _ =>
          exact ⟨Nat.le_refl 0, Nat.le_refl 0⟩
  | joined isSum left right =>
      simp only [Stored.joined, Value.textBytes, Value.mostRoom,
        String.utf8ByteSize_append]
      exact ⟨le_reservedForJoin _ _, reservedForJoin_le _ _⟩

/-- There are bytes to spare behind a sum only. -/
theorem reserved_eq_of_not_isSum
    (comesOf : stored.ComesOf expression)
    (notSum : ¬expression.IsSum) :
    stored.reserved = stored.value.textBytes := by
  cases comesOf with
  | exact value =>
      cases value <;> rfl
  | joined isSum left right =>
      exact absurd isSum notSum

/-- What is stored of a group is what is stored of the expression inside. -/
theorem group
    (comesOf : stored.ComesOf expression)
    (position : Position) :
    stored.ComesOf (.group position expression) := by
  cases comesOf with
  | exact value =>
      exact .exact value
  | joined isSum left right =>
      have alsoSum : (Expression.group position expression).IsSum := isSum
      exact .joined alsoSum left right

end Stored.ComesOf

/-- A result that was placed was computed. -/
theorem eq_ok_of_placed_eq_ok
    {α : Type}
    {expression : Expression}
    {computed : Except RuntimeFault α}
    {result : α}
    (placed : expression.placed computed = .ok result) :
    computed = .ok result := by
  cases computed with
  | error fault =>
      cases placed
  | ok value =>
      cases placed
      rfl

/-- An operator that computes stores its result exactly, or joins two texts. -/
theorem Value.stored_of_arithmetic
    {operator : ArithmeticOperator}
    {left right : Value}
    {stored : Stored}
    (computed : Value.arithmetic operator left right = .ok stored) :
    (∃ value, stored = .exact value) ∨
      (operator = .add ∧
        ∃ leftText rightText, stored = .joined leftText rightText) := by
  unfold arithmetic at computed
  split at computed
  · cases computed
    exact .inr ⟨rfl, _, _, rfl⟩
  · obtain ⟨value, _, rfl⟩ := Except.map_eq_ok_iff.1 computed
    exact .inl ⟨value, rfl⟩
  · split at computed
    · cases computed
      exact .inl ⟨_, rfl⟩
    · cases computed

namespace Expression

/-- Every value that an expression has is stored as it comes of it. -/
theorem comesOf_of_evaluate
    {globals : Globals}
    {expression : Expression}
    {stored : Stored}
    (evaluated : expression.evaluate globals = .ok stored) :
    stored.ComesOf expression := by
  induction expression with
  | literal position value =>
      cases evaluated
      exact .exact value
  | reference position name =>
      unfold evaluate at evaluated
      split at evaluated
      · cases evaluated
        exact .exact _
      · cases evaluated
  | group position inner hypothesis =>
      exact (hypothesis evaluated).group position
  | unary position operator operand hypothesis =>
      cases operator with
      | not =>
          obtain ⟨inner, _, same⟩ := Except.bind_eq_ok_iff.1 evaluated
          cases same
          exact .exact _
      | negate =>
          obtain ⟨inner, _, negated⟩ := Except.bind_eq_ok_iff.1 evaluated
          obtain ⟨value, _, same⟩ := Except.bind_eq_ok_iff.1 negated
          cases same
          exact .exact value
  | binary operator left right leftHypothesis rightHypothesis =>
      cases operator with
      | arithmetic operator =>
          obtain ⟨first, _, goesOn⟩ := Except.bind_eq_ok_iff.1 evaluated
          obtain ⟨second, _, placed⟩ := Except.bind_eq_ok_iff.1 goesOn
          rcases Value.stored_of_arithmetic (eq_ok_of_placed_eq_ok placed) with
            ⟨value, rfl⟩ | ⟨rfl, leftText, rightText, rfl⟩
          · exact .exact value
          · exact .joined ⟨left, right, rfl⟩ leftText rightText
      | order operator =>
          obtain ⟨first, _, goesOn⟩ := Except.bind_eq_ok_iff.1 evaluated
          obtain ⟨second, _, placed⟩ := Except.bind_eq_ok_iff.1 goesOn
          obtain ⟨truth, _, same⟩ := Except.bind_eq_ok_iff.1 placed
          cases same
          exact .exact _
      | equal =>
          obtain ⟨first, _, goesOn⟩ := Except.bind_eq_ok_iff.1 evaluated
          obtain ⟨second, _, same⟩ := Except.bind_eq_ok_iff.1 goesOn
          cases same
          exact .exact _
      | notEqual =>
          obtain ⟨first, _, goesOn⟩ := Except.bind_eq_ok_iff.1 evaluated
          obtain ⟨second, _, same⟩ := Except.bind_eq_ok_iff.1 goesOn
          cases same
          exact .exact _
      | and =>
          obtain ⟨first, _, goesOn⟩ := Except.bind_eq_ok_iff.1 evaluated
          split at goesOn
          · obtain ⟨second, _, same⟩ := Except.bind_eq_ok_iff.1 goesOn
            cases same
            exact .exact _
          · cases goesOn
            exact .exact _
      | or =>
          obtain ⟨first, _, goesOn⟩ := Except.bind_eq_ok_iff.1 evaluated
          split at goesOn
          · cases goesOn
            exact .exact _
          · obtain ⟨second, _, same⟩ := Except.bind_eq_ok_iff.1 goesOn
            cases same
            exact .exact _

end Expression

end OwlScript
