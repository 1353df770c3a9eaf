import OwlScript.Proofs.Run.FailingNodes

namespace OwlScript

/-!
# The faults of a run

A run fails because its output is closed, or with a fault of the program.  Such
a fault is found at a node of one of the expressions, or at an assignment whose
target is not bound, and the only names it may give are names of the program.
-/

/-- A node of the expression has the fault. -/
def Expression.IsFault
    (expression : Expression)
    (diagnostic : Diagnostic) :
    Prop :=
  ∃ fault position,
    diagnostic = RuntimeFault.located fault position ∧
      position ∈ expression.positions ∧ fault.names ⊆ expression.names

/-- The faults of some simple statements and some expressions. -/
inductive IsRuntimeFault
    (statements : List Statement)
    (expressions : List Expression) :
    Diagnostic → Prop where
  | inExpression
      {expression : Expression}
      {diagnostic : Diagnostic}
      (member : expression ∈ expressions)
      (isFault : expression.IsFault diagnostic) :
      IsRuntimeFault statements expressions diagnostic
  | atAssignment
      {position : Position}
      {name : String}
      {value : Expression}
      (member : .assign position name value ∈ statements) :
      IsRuntimeFault statements expressions
        ((RuntimeFault.undefinedTarget name).located position)

namespace Expression

variable {expression node : Expression}

/-- A node has no positions and no names but those of the whole. -/
theorem positions_and_names_of_mem_nodes
    (member : node ∈ expression.nodes) :
    node.positions ⊆ expression.positions ∧
      node.names ⊆ expression.names := by
  induction expression with
  | literal position value =>
      rw [List.mem_singleton.1 member]
      exact ⟨List.Subset.refl _, List.Subset.refl _⟩
  | reference position name =>
      rw [List.mem_singleton.1 member]
      exact ⟨List.Subset.refl _, List.Subset.refl _⟩
  | unary position operator operand hypothesis =>
      rcases List.mem_append.1 member with inOperand | isWhole
      · obtain ⟨positions, names⟩ := hypothesis inOperand
        exact ⟨List.subset_cons_of_subset _ positions, names⟩
      · rw [List.mem_singleton.1 isWhole]
        exact ⟨List.Subset.refl _, List.Subset.refl _⟩
  | binary operator left right leftHypothesis rightHypothesis =>
      rcases List.mem_append.1 member with inLeft | behind
      · obtain ⟨positions, names⟩ := leftHypothesis inLeft
        exact ⟨List.subset_cons_of_subset _
            (List.subset_append_of_subset_left _ positions),
          List.subset_append_of_subset_left _ names⟩
      · rcases List.mem_append.1 behind with inRight | isWhole
        · obtain ⟨positions, names⟩ := rightHypothesis inRight
          exact ⟨List.subset_cons_of_subset _
              (List.subset_append_of_subset_right _ positions),
            List.subset_append_of_subset_right _ names⟩
        · rw [List.mem_singleton.1 isWhole]
          exact ⟨List.Subset.refl _, List.Subset.refl _⟩
  | group position inner hypothesis =>
      rcases List.mem_append.1 member with inInner | isWhole
      · obtain ⟨positions, names⟩ := hypothesis inInner
        exact ⟨List.subset_cons_of_subset _ positions, names⟩
      · rw [List.mem_singleton.1 isWhole]
        exact ⟨List.Subset.refl _, List.Subset.refl _⟩

/-- The fault of a node that is reached is one of the whole expression. -/
theorem FailsItself.isFault
    {globals : Globals}
    {diagnostic : Diagnostic}
    (fails : node.FailsItself globals diagnostic)
    (reached : node.IsReachedFrom globals expression) :
    expression.IsFault diagnostic := by
  obtain ⟨fault, located, faultNames⟩ := fails.exists_fault
  obtain ⟨positions, names⟩ :=
    positions_and_names_of_mem_nodes reached.mem_nodes
  exact ⟨fault, node.position, located,
    positions node.position_mem_positions, List.Subset.trans faultNames names⟩

end Expression

/-- What fails among the parts is a fault they can have. -/
theorem FailsAmong.isRuntimeFault
    {statements : List Statement}
    {expressions : List Expression}
    {globals : Globals}
    {diagnostic : Diagnostic}
    (fails : FailsAmong statements expressions globals diagnostic) :
    IsRuntimeFault statements expressions diagnostic := by
  cases fails with
  | atNode member reached fails =>
      exact .inExpression member (fails.isFault reached)
  | atAssignment member evaluated unbound same =>
      rw [same]
      exact .atAssignment member

/-- What the statements may fail with: a closed output, or a fault of theirs. -/
def Statement.MayFailWith (block : List Statement) (failure : Failure) : Prop :=
  failure = .closedOutput ∨
    ∃ diagnostic, failure = .diagnostic diagnostic ∧
      IsRuntimeFault (blockSimpleStatements block) (blockExpressions block)
        diagnostic

/-- A run fails for want of room, or with a fault of the program. -/
theorem Program.mayFailWith_of_run
    {rounds : Nat}
    {program : Program}
    {state last : Execution}
    {failure : Failure}
    (failed : program.run rounds state = .failed failure last) :
    Statement.MayFailWith program.statements failure := by
  rcases mayFailIn_of_run failed with isClosed | ⟨diagnostic, same, fails⟩
  · exact .inl isClosed
  · exact .inr ⟨diagnostic, same, fails.isRuntimeFault⟩

end OwlScript
