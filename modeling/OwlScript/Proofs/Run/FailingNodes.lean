import OwlScript.Proofs.Except
import OwlScript.Proofs.Run.StraightLine

namespace OwlScript

/-!
# The node that fails

An evaluation comes from the whole expression to its operands, from left to
right, as far as it has to.  If it fails, it comes to one node that has no
value though its operands have: this is the node that fails, and the fault is
placed where it begins.  A run fails with such a node of one of its
expressions, or at an assignment whose target is not bound.
-/

/-- The names that the text of the fault shows. -/
def RuntimeFault.names : RuntimeFault → List String
  | .undefinedVariable name => [name]
  | .undefinedTarget name => [name]
  | _ => []

/-- Whether the second operand is evaluated behind this value of the first. -/
def BinaryOperator.goesOn : BinaryOperator → Value → Bool
  | .and, first => first.isTruthy
  | .or, first => !first.isTruthy
  | _, _ => true

/-! ### Faults of operators -/

namespace Value

/-- A result that is out of range is a fault that names nothing. -/
theorem names_of_checkedInt
    {result : Int}
    {fault : RuntimeFault}
    (failed : checkedInt result = .error fault) :
    fault.names = [] := by
  unfold checkedInt at failed
  split at failed
  · cases failed
  · cases failed
    rfl

/-- The arithmetic of integers fails without naming anything. -/
theorem names_of_integerArithmetic
    {operator : ArithmeticOperator}
    {left right : Int}
    {fault : RuntimeFault}
    (failed : integerArithmetic operator left right = .error fault) :
    fault.names = [] := by
  cases operator with
  | add =>
      exact names_of_checkedInt failed
  | subtract =>
      exact names_of_checkedInt failed
  | multiply =>
      exact names_of_checkedInt failed
  | divide =>
      simp only [integerArithmetic] at failed
      split at failed
      · cases failed
        rfl
      · exact names_of_checkedInt failed
  | remainder =>
      simp only [integerArithmetic] at failed
      split at failed
      · cases failed
        rfl
      · cases quotient : checkedInt (left.tdiv right) with
        | error found =>
            rw [quotient] at failed
            cases failed
            exact names_of_checkedInt quotient
        | ok value =>
            rw [quotient] at failed
            exact names_of_checkedInt failed

/-- Arithmetic fails without naming anything. -/
theorem names_of_arithmetic
    {operator : ArithmeticOperator}
    {left right : Value}
    {fault : RuntimeFault}
    (failed : arithmetic operator left right = .error fault) :
    fault.names = [] := by
  unfold arithmetic at failed
  split at failed
  · cases failed
  · generalize computed : integerArithmetic operator _ _ = result at failed
    cases result with
    | error found =>
        cases failed
        exact names_of_integerArithmetic computed
    | ok value =>
        cases failed
  · split at failed
    · cases failed
    · cases failed
      rfl

/-- A comparison fails without naming anything. -/
theorem names_of_order
    {operator : OrderOperator}
    {left right : Value}
    {fault : RuntimeFault}
    (failed : order operator left right = .error fault) :
    fault.names = [] := by
  unfold order at failed
  split at failed
  · cases failed
  · cases failed
  · split at failed
    · cases failed
    · cases failed
      rfl

/-- A negation fails without naming anything. -/
theorem names_of_negated
    {value : Value}
    {fault : RuntimeFault}
    (failed : value.negated = .error fault) :
    fault.names = [] := by
  cases value with
  | int number =>
      exact names_of_checkedInt failed
  | float number =>
      cases failed
  | _ =>
      cases failed
      rfl

end Value

/-! ### Nodes of expressions -/

namespace Expression

/-- The expressions whose values the expression is computed from. -/
def operands : Expression → List Expression
  | .literal _ _ => []
  | .reference _ _ => []
  | .unary _ _ operand => [operand]
  | .binary _ left right => [left, right]
  | .group _ inner => [inner]

/-- The evaluation of an expression comes to the node. -/
inductive IsReachedFrom
    (globals : Globals)
    (node : Expression) : Expression → Prop where
  | here : IsReachedFrom globals node node
  | operand
      {inner : Expression}
      (reached : IsReachedFrom globals node inner)
      (position : Position)
      (operator : UnaryOperator) :
      IsReachedFrom globals node (.unary position operator inner)
  | inside
      {inner : Expression}
      (reached : IsReachedFrom globals node inner)
      (position : Position) :
      IsReachedFrom globals node (.group position inner)
  | left
      {left : Expression}
      (reached : IsReachedFrom globals node left)
      (operator : BinaryOperator)
      (right : Expression) :
      IsReachedFrom globals node (.binary operator left right)
  | right
      {operator : BinaryOperator}
      {left right : Expression}
      {first : Stored}
      (evaluated : left.evaluate globals = .ok first)
      (goesOn : operator.goesOn first.value = true)
      (reached : IsReachedFrom globals node right) :
      IsReachedFrom globals node (.binary operator left right)

/-- The node has no value, and that is not for want of one of an operand. -/
structure FailsItself
    (globals : Globals)
    (node : Expression)
    (diagnostic : Diagnostic) : Prop where
  fails : node.evaluate globals = .error diagnostic
  operands :
    ∀ operand ∈ node.operands,
      ∃ stored, operand.evaluate globals = .ok stored

variable {globals : Globals}
variable {expression node left right inner : Expression}
variable {diagnostic : Diagnostic}

/-- A unary expression fails with its operand. -/
theorem evaluate_unary_of_error
    (failed : inner.evaluate globals = .error diagnostic)
    (position : Position)
    (operator : UnaryOperator) :
    (unary position operator inner).evaluate globals = .error diagnostic := by
  cases operator <;> rw [evaluate, failed] <;> rfl

/-- A binary expression fails with its left operand. -/
theorem evaluate_binary_of_error_left
    (failed : left.evaluate globals = .error diagnostic)
    (operator : BinaryOperator)
    (right : Expression) :
    (binary operator left right).evaluate globals = .error diagnostic := by
  cases operator <;> rw [evaluate, failed] <;> rfl

/-- A binary expression that goes on fails with its right operand. -/
theorem evaluate_binary_of_error_right
    {operator : BinaryOperator}
    {first : Stored}
    (evaluated : left.evaluate globals = .ok first)
    (goesOn : operator.goesOn first.value = true)
    (failed : right.evaluate globals = .error diagnostic) :
    (binary operator left right).evaluate globals = .error diagnostic := by
  cases operator with
  | and =>
      rw [evaluate, evaluated, failed]
      exact if_pos goesOn
  | or =>
      have notTruthy : first.value.isTruthy = false := by
        simpa [BinaryOperator.goesOn] using goesOn
      rw [evaluate, evaluated, failed]
      exact if_neg (Bool.eq_false_iff.1 notTruthy)
  | _ =>
      rw [evaluate, evaluated, failed]
      rfl

/-- A binary expression that stops at its left operand has a value. -/
theorem exists_value_of_not_goesOn
    {operator : BinaryOperator}
    {first : Stored}
    (evaluated : left.evaluate globals = .ok first)
    (stops : operator.goesOn first.value = false)
    (right : Expression) :
    ∃ stored, (binary operator left right).evaluate globals = .ok stored := by
  cases operator with
  | and =>
      rw [evaluate, evaluated]
      exact ⟨_, if_neg (Bool.eq_false_iff.1 stops)⟩
  | or =>
      have isTruthy : first.value.isTruthy = true := by
        simpa [BinaryOperator.goesOn] using stops
      rw [evaluate, evaluated]
      exact ⟨_, if_pos isTruthy⟩
  | _ =>
      cases stops

/-- A node that fails makes everything fail that its evaluation is a part of. -/
theorem IsReachedFrom.evaluate_eq_error
    (reached : node.IsReachedFrom globals expression)
    (failed : node.evaluate globals = .error diagnostic) :
    expression.evaluate globals = .error diagnostic := by
  induction reached with
  | here =>
      exact failed
  | operand reached position operator hypothesis =>
      exact evaluate_unary_of_error hypothesis position operator
  | inside reached position hypothesis =>
      exact hypothesis
  | left reached operator right hypothesis =>
      exact evaluate_binary_of_error_left hypothesis operator right
  | right evaluated goesOn reached hypothesis =>
      exact evaluate_binary_of_error_right evaluated goesOn hypothesis

/-- An evaluation that fails comes to a node that fails itself. -/
theorem exists_failsItself
    (failed : expression.evaluate globals = .error diagnostic) :
    ∃ node : Expression,
      node.IsReachedFrom globals expression ∧
        node.FailsItself globals diagnostic := by
  induction expression with
  | literal position value =>
      cases failed
  | reference position name =>
      exact ⟨_, .here, failed, nofun⟩
  | group position inner hypothesis =>
      obtain ⟨node, reached, fails⟩ := hypothesis failed
      exact ⟨node, reached.inside position, fails⟩
  | unary position operator operand hypothesis =>
      cases evaluated : operand.evaluate globals with
      | error fault =>
          rw [evaluate_unary_of_error evaluated] at failed
          cases failed
          obtain ⟨node, reached, fails⟩ := hypothesis evaluated
          exact ⟨node, reached.operand position operator, fails⟩
      | ok stored =>
          exact ⟨_, .here, failed,
            List.forall_mem_singleton.2 ⟨stored, evaluated⟩⟩
  | binary operator left right leftHypothesis rightHypothesis =>
      cases evaluated : left.evaluate globals with
      | error fault =>
          rw [evaluate_binary_of_error_left evaluated] at failed
          cases failed
          obtain ⟨node, reached, fails⟩ := leftHypothesis evaluated
          exact ⟨node, reached.left operator right, fails⟩
      | ok first =>
          cases goesOn : operator.goesOn first.value with
          | false =>
              obtain ⟨stored, same⟩ :=
                exists_value_of_not_goesOn evaluated goesOn right
              rw [same] at failed
              cases failed
          | true =>
              cases rightEvaluated : right.evaluate globals with
              | error fault =>
                  rw [evaluate_binary_of_error_right evaluated goesOn
                    rightEvaluated] at failed
                  cases failed
                  obtain ⟨node, reached, fails⟩ :=
                    rightHypothesis rightEvaluated
                  exact ⟨node, .right evaluated goesOn reached, fails⟩
              | ok second =>
                  refine ⟨_, .here, failed, ?_⟩
                  exact List.forall_mem_cons.2 ⟨⟨first, evaluated⟩,
                    List.forall_mem_singleton.2 ⟨second, rightEvaluated⟩⟩

/-- A node is the whole expression or reached from one of its operands. -/
theorem IsReachedFrom.eq_or_exists_operand
    (reached : node.IsReachedFrom globals expression) :
    node = expression ∨
      ∃ operand ∈ expression.operands, node.IsReachedFrom globals operand := by
  cases reached with
  | here =>
      exact .inl rfl
  | operand reached position operator =>
      exact .inr ⟨_, List.mem_cons_self, reached⟩
  | inside reached position =>
      exact .inr ⟨_, List.mem_cons_self, reached⟩
  | left reached operator right =>
      exact .inr ⟨_, List.mem_cons_self, reached⟩
  | right evaluated goesOn reached =>
      exact .inr ⟨_, List.mem_cons_of_mem _ List.mem_cons_self, reached⟩

/-- Nothing else fails in an expression that fails itself. -/
theorem FailsItself.eq_of_reached
    {fault : Diagnostic}
    (fails : expression.FailsItself globals diagnostic)
    (reached : node.IsReachedFrom globals expression)
    (nodeFails : node.FailsItself globals fault) :
    node = expression := by
  rcases reached.eq_or_exists_operand with same | ⟨operand, member, within⟩
  · exact same
  · obtain ⟨stored, evaluated⟩ := fails.operands operand member
    rw [within.evaluate_eq_error nodeFails.fails] at evaluated
    cases evaluated

/-- There is only one node that fails itself in an evaluation. -/
theorem IsReachedFrom.eq_of_failsItself
    {other : Expression}
    {fault : Diagnostic}
    (reached : node.IsReachedFrom globals expression)
    (fails : node.FailsItself globals diagnostic)
    (otherReached : other.IsReachedFrom globals expression)
    (otherFails : other.FailsItself globals fault) :
    other = node := by
  induction reached with
  | here =>
      exact fails.eq_of_reached otherReached otherFails
  | operand reached position operator hypothesis =>
      cases otherReached with
      | here =>
          have whole := reached.operand position operator
          exact (otherFails.eq_of_reached whole fails).symm
      | operand otherReached position operator =>
          exact hypothesis otherReached
  | inside reached position hypothesis =>
      cases otherReached with
      | here =>
          have whole := reached.inside position
          exact (otherFails.eq_of_reached whole fails).symm
      | inside otherReached position =>
          exact hypothesis otherReached
  | left reached operator right hypothesis =>
      cases otherReached with
      | here =>
          have whole := reached.left operator right
          exact (otherFails.eq_of_reached whole fails).symm
      | left otherReached operator right =>
          exact hypothesis otherReached
      | right evaluated goesOn otherReached =>
          rw [reached.evaluate_eq_error fails.fails] at evaluated
          cases evaluated
  | right evaluated goesOn reached hypothesis =>
      cases otherReached with
      | here =>
          have whole := reached.right evaluated goesOn
          exact (otherFails.eq_of_reached whole fails).symm
      | left otherReached operator right =>
          rw [otherReached.evaluate_eq_error otherFails.fails] at evaluated
          cases evaluated
      | right otherEvaluated otherGoesOn otherReached =>
          exact hypothesis otherReached

/-- What is reached from an expression is a node of it. -/
theorem IsReachedFrom.mem_nodes
    (reached : node.IsReachedFrom globals expression) :
    node ∈ expression.nodes := by
  induction reached with
  | here =>
      exact node.mem_nodes_self
  | operand reached position operator hypothesis =>
      exact List.mem_append_left _ hypothesis
  | inside reached position hypothesis =>
      exact List.mem_append_left _ hypothesis
  | left reached operator right hypothesis =>
      exact List.mem_append_left _ hypothesis
  | right evaluated goesOn reached hypothesis =>
      exact List.mem_append_right _ (List.mem_append_left _ hypothesis)

/-- What an operator cannot compute is placed where its node begins. -/
theorem exists_fault_of_placed
    {α : Type}
    {result : Except RuntimeFault α}
    (noNames : ∀ fault, result = .error fault → fault.names = [])
    (failed : node.placed result = .error diagnostic) :
    ∃ fault : RuntimeFault,
      diagnostic = fault.located node.position ∧ fault.names ⊆ node.names := by
  cases result with
  | ok value =>
      cases failed
  | error fault =>
      cases failed
      refine ⟨fault, rfl, ?_⟩
      rw [noNames fault rfl]
      exact List.nil_subset _

/-- What a node fails with is placed where the node begins. -/
theorem FailsItself.exists_fault
    (failsItself : node.FailsItself globals diagnostic) :
    ∃ fault : RuntimeFault,
      diagnostic = fault.located node.position ∧ fault.names ⊆ node.names := by
  have failed := failsItself.fails
  -- Its operands have values, so the fault is not one of theirs.
  have operandsHaveValues := failsItself.operands
  cases node with
  | literal position value =>
      cases failed
  | reference position name =>
      simp only [evaluate] at failed
      split at failed
      · cases failed
      · cases failed
        exact ⟨_, rfl, List.Subset.refl _⟩
  | group position inner =>
      obtain ⟨stored, evaluated⟩ := operandsHaveValues inner List.mem_cons_self
      have innerFailed : inner.evaluate globals = .error diagnostic := failed
      rw [evaluated] at innerFailed
      cases innerFailed
  | unary position operator operand =>
      obtain ⟨stored, evaluated⟩ :=
        operandsHaveValues operand List.mem_cons_self
      cases operator with
      | not =>
          rw [evaluate, evaluated] at failed
          cases failed
      | negate =>
          rw [evaluate, evaluated] at failed
          rcases Except.bind_eq_error_iff.1 failed with ⟨⟨⟩⟩ | ⟨_, ⟨⟩, failed⟩
          rcases Except.bind_eq_error_iff.1 failed with failed | ⟨_, _, ⟨⟩⟩
          exact exists_fault_of_placed (fun _ => Value.names_of_negated) failed
  | binary operator left right =>
      obtain ⟨first, evaluated⟩ :=
        operandsHaveValues left List.mem_cons_self
      obtain ⟨second, rightEvaluated⟩ :=
        operandsHaveValues right (List.mem_cons_of_mem _ List.mem_cons_self)
      cases operator with
      | and =>
          rw [evaluate, evaluated, rightEvaluated] at failed
          rcases Except.bind_eq_error_iff.1 failed with ⟨⟨⟩⟩ | ⟨_, ⟨⟩, failed⟩
          split at failed <;> cases failed
      | or =>
          rw [evaluate, evaluated, rightEvaluated] at failed
          rcases Except.bind_eq_error_iff.1 failed with ⟨⟨⟩⟩ | ⟨_, ⟨⟩, failed⟩
          split at failed <;> cases failed
      | equal =>
          rw [evaluate, evaluated, rightEvaluated] at failed
          cases failed
      | notEqual =>
          rw [evaluate, evaluated, rightEvaluated] at failed
          cases failed
      | arithmetic operator =>
          rw [evaluate, evaluated, rightEvaluated] at failed
          exact exists_fault_of_placed (fun _ => Value.names_of_arithmetic)
            failed
      | order operator =>
          rw [evaluate, evaluated, rightEvaluated] at failed
          rcases Except.bind_eq_error_iff.1 failed with ⟨⟨⟩⟩ | ⟨_, ⟨⟩, failed⟩
          rcases Except.bind_eq_error_iff.1 failed with ⟨⟨⟩⟩ | ⟨_, ⟨⟩, failed⟩
          rcases Except.bind_eq_error_iff.1 failed with failed | ⟨_, _, ⟨⟩⟩
          exact exists_fault_of_placed (fun _ => Value.names_of_order) failed

end Expression

/-! ### Statements and programs -/

/--
What goes wrong in one of the expressions, or in one of the simple statements,
while the variables have these values.
-/
inductive FailsAmong
    (statements : List Statement)
    (expressions : List Expression)
    (globals : Globals)
    (diagnostic : Diagnostic) : Prop where
  | atNode
      {expression node : Expression}
      (member : expression ∈ expressions)
      (reached : node.IsReachedFrom globals expression)
      (fails : node.FailsItself globals diagnostic)
  | atAssignment
      {position : Position}
      {name : String}
      {value : Expression}
      {stored : Stored}
      (member : .assign position name value ∈ statements)
      (evaluated : value.evaluate globals = .ok stored)
      (unbound : globals.contains name = false)
      (same :
        diagnostic = (RuntimeFault.undefinedTarget name).located position)

/-- What fails among some parts fails among more of them. -/
theorem FailsAmong.mono
    {statements otherStatements : List Statement}
    {expressions otherExpressions : List Expression}
    {globals : Globals}
    {diagnostic : Diagnostic}
    (fails : FailsAmong statements expressions globals diagnostic)
    (within : statements ⊆ otherStatements)
    (expressionsWithin : expressions ⊆ otherExpressions) :
    FailsAmong otherStatements otherExpressions globals diagnostic := by
  cases fails with
  | atNode member reached fails =>
      exact .atNode (expressionsWithin member) reached fails
  | atAssignment member evaluated unbound same =>
      exact .atAssignment (within member) evaluated unbound same

/-- An expression among the parts may fail there. -/
theorem FailsAmong.ofExpression
    {statements : List Statement}
    {expressions : List Expression}
    {expression : Expression}
    {globals : Globals}
    {diagnostic : Diagnostic}
    (member : expression ∈ expressions)
    (failed : expression.evaluate globals = .error diagnostic) :
    FailsAmong statements expressions globals diagnostic := by
  obtain ⟨node, reached, fails⟩ := Expression.exists_failsItself failed
  exact .atNode member reached fails

/-- A condition that cannot be decided cannot be evaluated. -/
theorem Expression.evaluate_of_holds_eq_error
    {condition : Expression}
    {state : Execution}
    {diagnostic : Diagnostic}
    (failed : state.holds condition = .error diagnostic) :
    condition.evaluate state.globals = .error diagnostic := by
  unfold Execution.holds at failed
  cases evaluated : condition.evaluate state.globals with
  | error fault =>
      rw [evaluated] at failed
      cases failed
      rfl
  | ok stored =>
      rw [evaluated] at failed
      cases failed

namespace Statement

/-- A line is not printed because one of the arguments has no value. -/
theorem exists_argument_of_printedLine
    {globals : Globals}
    {arguments : List Expression}
    {diagnostic : Diagnostic}
    (failed : printedLine globals arguments = .error diagnostic) :
    ∃ argument ∈ arguments, argument.evaluate globals = .error diagnostic := by
  rw [printedLine, Except.bind_eq_error_iff] at failed
  rcases failed with failed | ⟨_, _, ⟨⟩⟩
  induction arguments with
  | nil =>
      cases failed
  | cons argument rest hypothesis =>
      rw [List.mapM_cons, Except.bind_eq_error_iff] at failed
      rcases failed with failed | ⟨_, _, failed⟩
      · exact ⟨argument, List.mem_cons_self, failed⟩
      · rw [Except.bind_eq_error_iff] at failed
        rcases failed with failed | ⟨_, _, ⟨⟩⟩
        obtain ⟨other, member, otherFailed⟩ := hypothesis failed
        exact ⟨other, List.mem_cons_of_mem _ member, otherFailed⟩

/-- A simple statement fails for want of room, or in the state it leaves. -/
theorem failsAmong_of_failed
    {statement : Statement}
    (simple : statement.isSimple = true)
    {state last : Execution}
    {failure : Failure}
    (failed : statement.execute 0 state = .failed failure last) :
    failure = .closedOutput ∨
      ∃ diagnostic, failure = .diagnostic diagnostic ∧
        FailsAmong [statement] statement.expressions last.globals
          diagnostic := by
  cases statement with
  | branch position condition thenBody elseBody =>
      cases simple
  | loop position condition body =>
      cases simple
  | bind position name value =>
      simp only [execute, executeBind] at failed
      split at failed
      · next evaluated =>
          cases failed
          exact .inr ⟨_, rfl, .ofExpression List.mem_cons_self evaluated⟩
      · cases failed
  | assign position name value =>
      simp only [execute, executeAssign] at failed
      split at failed
      · next evaluated =>
          cases failed
          exact .inr ⟨_, rfl, .ofExpression List.mem_cons_self evaluated⟩
      · next evaluated =>
          split at failed
          · cases failed
          · next unbound =>
              cases failed
              exact .inr ⟨_, rfl, .atAssignment List.mem_cons_self evaluated
                (Bool.eq_false_iff.2 unbound) rfl⟩
  | print position arguments =>
      simp only [execute, executePrint] at failed
      split at failed
      · next unprinted =>
          cases failed
          obtain ⟨argument, member, evaluated⟩ :=
            exists_argument_of_printedLine unprinted
          exact .inr ⟨_, rfl, .ofExpression member evaluated⟩
      · rcases state with ⟨interpreter, output, trace⟩
        simp only [Execution.write, Execution.deliver] at failed
        split at failed
        · cases failed
        · cases failed
          exact .inl rfl
  | evaluate expression =>
      simp only [execute, executeEvaluate] at failed
      split at failed
      · next evaluated =>
          cases failed
          exact .inr ⟨_, rfl, .ofExpression List.mem_cons_self evaluated⟩
      · cases failed

end Statement

/-- What a run of the statements may fail with while variables are these. -/
def Statement.MayFailIn
    (globals : Globals)
    (block : List Statement)
    (failure : Failure) : Prop :=
  failure = .closedOutput ∨
    ∃ diagnostic, failure = .diagnostic diagnostic ∧
      FailsAmong (blockSimpleStatements block) (blockExpressions block) globals
        diagnostic

namespace Statement.MayFailIn

variable {globals : Globals}
variable {failure : Failure}

/-- What may fail in a part of a block may fail in the block. -/
theorem mono
    {inner block : List Statement}
    (may : MayFailIn globals inner failure)
    (parts : PartsWithin inner block) :
    MayFailIn globals block failure := by
  rcases may with isClosed | ⟨diagnostic, same, fails⟩
  · exact .inl isClosed
  · exact .inr ⟨diagnostic, same,
      fails.mono parts.statements parts.expressions⟩

/-- A simple statement that fails may fail in a block that it begins. -/
theorem of_isSimple
    {statement : Statement}
    (simple : statement.isSimple = true)
    {state last : Execution}
    (failed : statement.execute 0 state = .failed failure last)
    (rest : List Statement) :
    MayFailIn last.globals (statement :: rest) failure := by
  rcases failsAmong_of_failed simple failed with
    isClosed | ⟨diagnostic, same, fails⟩
  · exact .inl isClosed
  · refine .inr ⟨diagnostic, same, fails.mono ?_ ?_⟩
    · simp [blockSimpleStatements, simpleStatements_of_isSimple simple]
    · exact List.subset_append_left _ _

/-- The statement that comes first may fail at its condition. -/
theorem atCondition
    {statement : Statement}
    {condition : Expression}
    {state : Execution}
    {diagnostic : Diagnostic}
    (member : condition ∈ statement.expressions)
    (failed : state.holds condition = .error diagnostic)
    (rest : List Statement) :
    MayFailIn state.globals (statement :: rest) (.diagnostic diagnostic) :=
  .inr ⟨diagnostic, rfl, .ofExpression (List.mem_append_left _ member)
    (Expression.evaluate_of_holds_eq_error failed)⟩

end Statement.MayFailIn

/-- What unrolled statements fail with goes wrong in the last state. -/
theorem Unrolls.mayFailIn
    {block completed : List Statement}
    {state last reached : Execution}
    {ending : Ending}
    {failure : Failure}
    (unrolls : Unrolls block state completed ending last)
    (failed : ending.outcome reached = .failed failure reached) :
    Statement.MayFailIn last.globals block failure := by
  induction unrolls with
  | reached state =>
      cases failed
  | completes simple executed later hypothesis =>
      exact (hypothesis failed).mono (.behind _ _)
  | fails simple executed =>
      cases failed
      exact .of_isSimple simple executed _
  | branchThen holds later hypothesis =>
      exact (hypothesis failed).mono (.whenTrue _)
  | branchElse holds later hypothesis =>
      exact (hypothesis failed).mono (.whenFalse _)
  | branchFails holds =>
      cases failed
      exact .atCondition List.mem_cons_self holds _
  | loopAgain holds later hypothesis =>
      exact (hypothesis failed).mono (.again _)
  | loopEnds holds later hypothesis =>
      exact (hypothesis failed).mono (.behind _ _)
  | loopFails holds =>
      cases failed
      exact .atCondition List.mem_cons_self holds _

/-- A run fails for want of room, or with what goes wrong in its last state. -/
theorem Program.mayFailIn_of_run
    {rounds : Nat}
    {program : Program}
    {state last : Execution}
    {failure : Failure}
    (failed : program.run rounds state = .failed failure last) :
    Statement.MayFailIn last.globals program.statements failure := by
  unfold run at failed
  have finished := congrArg Outcome.state? failed
  obtain ⟨completed, ending, unrolls, outcome⟩ :=
    Statement.exists_unrolls_of_executeBlock finished
  exact unrolls.mayFailIn (outcome.symm.trans failed)

end OwlScript
