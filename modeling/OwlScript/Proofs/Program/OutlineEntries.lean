import OwlScript.Program.Outline
import OwlScript.Proofs.Program.Shape

namespace OwlScript

/-!
# Entries of outlines

An outline is a list of entries, each a heading at a depth.  The entries tell
the program apart from its positions, though nothing marks where the entries
of a part end.  An expression ends by itself, because its heading tells how
many operands there are.  A block ends in front of an entry that lies less
deep than its statements, and a statement in front of one that lies no deeper
and does not go on with it as an `else` does.
-/

/-- What one line of an outline says. -/
inductive Heading where
  | value (literal : Value)
  | reference (name : String)
  | prefixed (operator : UnaryOperator)
  | between (operator : BinaryOperator)
  | group
  | bind (name : String)
  | assign (name : String)
  | print
  | branch
  | whenTrue
  | whenFalse
  | loop
  | body
  | evaluate

/-- A heading and how deep it lies. -/
structure OutlineEntry where
  depth : Nat
  heading : Heading

namespace Expression

/-- The entries of an expression at a depth. -/
def entries (depth : Nat) : Expression → List OutlineEntry
  | .literal _ value => [⟨depth, .value value⟩]
  | .reference _ name => [⟨depth, .reference name⟩]
  | .unary _ operator operand =>
      ⟨depth, .prefixed operator⟩ :: operand.entries (depth + 1)
  | .binary operator left right =>
      ⟨depth, .between operator⟩ ::
        (left.entries (depth + 1) ++ right.entries (depth + 1))
  | .group _ inner => ⟨depth, .group⟩ :: inner.entries (depth + 1)

end Expression

namespace Statement

mutual

/-- The entries of a statement at a depth. -/
def entries (depth : Nat) : Statement → List OutlineEntry
  | .bind _ name value => ⟨depth, .bind name⟩ :: value.entries (depth + 1)
  | .assign _ name value => ⟨depth, .assign name⟩ :: value.entries (depth + 1)
  | .print _ arguments =>
      ⟨depth, .print⟩ :: arguments.flatMap (Expression.entries (depth + 1))
  | .branch _ condition thenBody elseBody =>
      ⟨depth, .branch⟩ ::
        (condition.entries (depth + 1) ++
          ⟨depth, .whenTrue⟩ :: (blockEntries (depth + 1) thenBody ++
            elseEntries depth elseBody))
  | .loop _ condition body =>
      ⟨depth, .loop⟩ ::
        (condition.entries (depth + 1) ++
          ⟨depth, .body⟩ :: blockEntries (depth + 1) body)
  | .evaluate expression =>
      ⟨depth, .evaluate⟩ :: expression.entries (depth + 1)

/-- The entries of the statements of a block at a depth. -/
def blockEntries (depth : Nat) : List Statement → List OutlineEntry
  | [] => []
  | statement :: rest => entries depth statement ++ blockEntries depth rest

/-- The entries of what is behind an `else`, if there is one. -/
def elseEntries (depth : Nat) : Option (List Statement) → List OutlineEntry
  | none => []
  | some body => ⟨depth, .whenFalse⟩ :: blockEntries (depth + 1) body

end

end Statement

/-! ### Where parts end -/

/-- No entry in front lies as deep as the depth. -/
def EndsBlock (depth : Nat) (rest : List OutlineEntry) : Prop :=
  ∀ entry ∈ rest.head?, entry.depth < depth

/-- The entry in front lies no deeper and does not go on with a statement. -/
def EndsStatement (depth : Nat) (rest : List OutlineEntry) : Prop :=
  ∀ entry ∈ rest.head?,
    entry.depth ≤ depth ∧
      (entry.depth = depth → entry.heading ≠ .whenFalse)

section Ends

variable {depth : Nat}
variable {rest otherRest : List OutlineEntry}

/-- Where a statement ends, a block inside it ends. -/
theorem EndsStatement.endsBlock
    (ends : EndsStatement depth rest) :
    EndsBlock (depth + 1) rest :=
  fun entry isFirst => Nat.lt_succ_of_le (ends entry isFirst).1

/-- Behind the entries of a block, there is a statement or the end of it. -/
theorem EndsBlock.endsStatement_append
    (ends : EndsBlock depth rest)
    (block : List Statement) :
    EndsStatement depth (Statement.blockEntries depth block ++ rest) := by
  intro entry isFirst
  match block with
  | [] =>
      have less := ends entry isFirst
      exact ⟨Nat.le_of_lt less, fun same => absurd same (Nat.ne_of_lt less)⟩
  | statement :: later =>
      cases statement <;>
        obtain rfl := Option.some.inj isFirst <;>
        exact ⟨Nat.le_refl depth, fun _ => nofun⟩

/-- Behind a block that a statement holds, its `else` or its end is next. -/
theorem EndsStatement.endsBlock_elseEntries_append
    (ends : EndsStatement depth rest)
    (elseBody : Option (List Statement)) :
    EndsBlock (depth + 1) (Statement.elseEntries depth elseBody ++ rest) := by
  cases elseBody with
  | none =>
      exact ends.endsBlock
  | some body =>
      intro entry isFirst
      obtain rfl := Option.some.inj isFirst
      exact Nat.lt_succ_self depth

/-- With an `else` in front, a statement has not ended. -/
theorem not_endsStatement_whenFalse_cons (rest : List OutlineEntry) :
    ¬ EndsStatement depth (⟨depth, .whenFalse⟩ :: rest) :=
  fun ends => (ends _ rfl).2 rfl rfl

end Ends

/-! ### Entries tell the parts -/

namespace Expression

/-- The entries of an expression tell it, whatever is behind them. -/
theorem unplaced_eq_of_entries_append_eq
    {depth : Nat}
    {expression other : Expression}
    {rest otherRest : List OutlineEntry}
    (same :
      expression.entries depth ++ rest = other.entries depth ++ otherRest) :
    expression.unplaced = other.unplaced ∧ rest = otherRest := by
  induction expression generalizing depth other rest otherRest with
  | literal position value =>
      cases other <;> obtain ⟨first, rests⟩ := List.cons.inj same <;>
        cases first
      exact ⟨rfl, rests⟩
  | reference position name =>
      cases other <;> obtain ⟨first, rests⟩ := List.cons.inj same <;>
        cases first
      exact ⟨rfl, rests⟩
  | unary position operator operand hypothesis =>
      cases other <;> obtain ⟨first, behind⟩ := List.cons.inj same <;>
        cases first
      obtain ⟨operands, rests⟩ := hypothesis behind
      exact ⟨by rw [unplaced, unplaced, operands], rests⟩
  | binary operator left right leftHypothesis rightHypothesis =>
      cases other <;> obtain ⟨first, behind⟩ := List.cons.inj same <;>
        cases first
      rw [List.append_eq, List.append_assoc, List.append_eq,
        List.append_assoc] at behind
      obtain ⟨lefts, behindLeft⟩ := leftHypothesis behind
      obtain ⟨rights, rests⟩ := rightHypothesis behindLeft
      exact ⟨by rw [unplaced, unplaced, lefts, rights], rests⟩
  | group position inner hypothesis =>
      cases other <;> obtain ⟨first, behind⟩ := List.cons.inj same <;>
        cases first
      obtain ⟨inners, rests⟩ := hypothesis behind
      exact ⟨by rw [unplaced, unplaced, inners], rests⟩

/-- The entries of an expression begin with one at its depth. -/
theorem exists_entries_eq_cons (depth : Nat) (expression : Expression) :
    ∃ heading rest, expression.entries depth = ⟨depth, heading⟩ :: rest := by
  cases expression <;> exact ⟨_, _, rfl⟩

/-- No expression is in front of what ends a row of them. -/
theorem not_endsBlock_entries_append
    {depth : Nat}
    (expression : Expression)
    (rest : List OutlineEntry) :
    ¬ EndsBlock depth (expression.entries depth ++ rest) := by
  intro ends
  obtain ⟨heading, more, entries⟩ := exists_entries_eq_cons depth expression
  rw [entries] at ends
  exact Nat.lt_irrefl depth (ends _ rfl)

/-- The entries of a row of expressions tell the row, up to its end. -/
theorem map_unplaced_eq_of_flatMap_entries_append_eq
    {depth : Nat}
    {row otherRow : List Expression}
    {rest otherRest : List OutlineEntry}
    (ends : EndsBlock depth rest)
    (otherEnds : EndsBlock depth otherRest)
    (same :
      row.flatMap (entries depth) ++ rest =
        otherRow.flatMap (entries depth) ++ otherRest) :
    row.map unplaced = otherRow.map unplaced ∧ rest = otherRest := by
  induction row generalizing otherRow with
  | nil =>
      cases otherRow with
      | nil =>
          exact ⟨rfl, same⟩
      | cons other later =>
          rw [List.flatMap_nil, List.nil_append, List.flatMap_cons,
            List.append_assoc] at same
          exact absurd (same ▸ ends) (not_endsBlock_entries_append other _)
  | cons expression more hypothesis =>
      rw [List.flatMap_cons, List.append_assoc] at same
      cases otherRow with
      | nil =>
          rw [List.flatMap_nil, List.nil_append] at same
          exact absurd (same ▸ otherEnds)
            (not_endsBlock_entries_append expression _)
      | cons other later =>
          rw [List.flatMap_cons, List.append_assoc] at same
          obtain ⟨firsts, behind⟩ := unplaced_eq_of_entries_append_eq same
          obtain ⟨others, rests⟩ := hypothesis behind
          exact ⟨by rw [List.map_cons, List.map_cons, firsts, others], rests⟩

end Expression

namespace Statement

/-- The entries of a statement begin with one at its depth. -/
theorem exists_entries_eq_cons (depth : Nat) (statement : Statement) :
    ∃ heading rest, statement.entries depth = ⟨depth, heading⟩ :: rest := by
  cases statement <;> exact ⟨_, _, rfl⟩

/-- No statement is in front of what ends a block. -/
theorem not_endsBlock_entries_append
    {depth : Nat}
    (statement : Statement)
    (rest : List OutlineEntry) :
    ¬ EndsBlock depth (statement.entries depth ++ rest) := by
  intro ends
  obtain ⟨heading, more, entries⟩ := exists_entries_eq_cons depth statement
  rw [entries] at ends
  exact Nat.lt_irrefl depth (ends _ rfl)

mutual

/-- The entries of a statement tell it, up to its end. -/
theorem unplaced_eq_of_entries_append_eq
    {depth : Nat}
    {rest otherRest : List OutlineEntry}
    (ends : EndsStatement depth rest)
    (otherEnds : EndsStatement depth otherRest) :
    (statement other : Statement) →
      statement.entries depth ++ rest = other.entries depth ++ otherRest →
        statement.unplaced = other.unplaced ∧ rest = otherRest
  | .bind _ name value, other, same => by
      cases other <;> obtain ⟨first, behind⟩ := List.cons.inj same <;>
        cases first
      obtain ⟨values, rests⟩ :=
        Expression.unplaced_eq_of_entries_append_eq behind
      exact ⟨by rw [unplaced, unplaced, values], rests⟩
  | .assign _ name value, other, same => by
      cases other <;> obtain ⟨first, behind⟩ := List.cons.inj same <;>
        cases first
      obtain ⟨values, rests⟩ :=
        Expression.unplaced_eq_of_entries_append_eq behind
      exact ⟨by rw [unplaced, unplaced, values], rests⟩
  | .print _ arguments, other, same => by
      cases other <;> obtain ⟨first, behind⟩ := List.cons.inj same <;>
        cases first
      obtain ⟨rows, rests⟩ :=
        Expression.map_unplaced_eq_of_flatMap_entries_append_eq
          ends.endsBlock otherEnds.endsBlock behind
      exact ⟨by rw [unplaced, unplaced, rows], rests⟩
  | .branch _ condition thenBody elseBody, other, same => by
      cases other <;> obtain ⟨first, behind⟩ := List.cons.inj same <;>
        cases first
      case branch _ otherCondition otherThenBody otherElseBody =>
        simp only [List.append_assoc, List.cons_append, List.append_eq]
          at behind
        obtain ⟨conditions, behindCondition⟩ :=
          Expression.unplaced_eq_of_entries_append_eq behind
        obtain ⟨-, bodies⟩ := List.cons.inj behindCondition
        -- The first block ends where an entry is less deep: at `Else`, or at
        -- the end of the statement.
        obtain ⟨thenBodies, behindThen⟩ :=
          blockUnplaced_eq_of_blockEntries_append_eq
            (ends.endsBlock_elseEntries_append elseBody)
            (otherEnds.endsBlock_elseEntries_append otherElseBody)
            thenBody otherThenBody bodies
        obtain ⟨elseBodies, rests⟩ :=
          elseUnplaced_eq_of_elseEntries_append_eq ends otherEnds elseBody
            otherElseBody behindThen
        refine ⟨?_, rests⟩
        rw [unplaced, unplaced, conditions, thenBodies, elseBodies]
  | .loop _ condition body, other, same => by
      cases other <;> obtain ⟨first, behind⟩ := List.cons.inj same <;>
        cases first
      case loop _ otherCondition otherBody =>
        simp only [List.append_assoc, List.cons_append, List.append_eq]
          at behind
        obtain ⟨conditions, behindCondition⟩ :=
          Expression.unplaced_eq_of_entries_append_eq behind
        obtain ⟨-, afterHeading⟩ := List.cons.inj behindCondition
        obtain ⟨bodies, rests⟩ :=
          blockUnplaced_eq_of_blockEntries_append_eq ends.endsBlock
            otherEnds.endsBlock body otherBody afterHeading
        exact ⟨by rw [unplaced, unplaced, conditions, bodies], rests⟩
  | .evaluate expression, other, same => by
      cases other <;> obtain ⟨first, behind⟩ := List.cons.inj same <;>
        cases first
      obtain ⟨expressions, rests⟩ :=
        Expression.unplaced_eq_of_entries_append_eq behind
      exact ⟨by rw [unplaced, unplaced, expressions], rests⟩

/-- The entries of a block tell it, up to its end. -/
theorem blockUnplaced_eq_of_blockEntries_append_eq
    {depth : Nat}
    {rest otherRest : List OutlineEntry}
    (ends : EndsBlock depth rest)
    (otherEnds : EndsBlock depth otherRest) :
    (block otherBlock : List Statement) →
      blockEntries depth block ++ rest =
          blockEntries depth otherBlock ++ otherRest →
        blockUnplaced block = blockUnplaced otherBlock ∧ rest = otherRest
  | [], [], same => ⟨rfl, same⟩
  | [], other :: later, same => by
      rw [blockEntries, List.nil_append, blockEntries, List.append_assoc]
        at same
      exact absurd (same ▸ ends) (not_endsBlock_entries_append other _)
  | statement :: more, [], same => by
      rw [blockEntries, List.nil_append, blockEntries, List.append_assoc]
        at same
      exact absurd (same ▸ otherEnds)
        (not_endsBlock_entries_append statement _)
  | statement :: more, other :: later, same => by
      rw [blockEntries, List.append_assoc, blockEntries, List.append_assoc]
        at same
      obtain ⟨firsts, behind⟩ :=
        unplaced_eq_of_entries_append_eq (ends.endsStatement_append more)
          (otherEnds.endsStatement_append later) statement other same
      obtain ⟨others, rests⟩ :=
        blockUnplaced_eq_of_blockEntries_append_eq ends otherEnds more later
          behind
      exact ⟨by rw [blockUnplaced, blockUnplaced, firsts, others], rests⟩

/-- The entries behind a branch tell whether it has an `else`, and which. -/
theorem elseUnplaced_eq_of_elseEntries_append_eq
    {depth : Nat}
    {rest otherRest : List OutlineEntry}
    (ends : EndsStatement depth rest)
    (otherEnds : EndsStatement depth otherRest) :
    (elseBody otherElseBody : Option (List Statement)) →
      elseEntries depth elseBody ++ rest =
          elseEntries depth otherElseBody ++ otherRest →
        elseUnplaced elseBody = elseUnplaced otherElseBody ∧
          rest = otherRest
  | none, none, same => ⟨rfl, same⟩
  | none, some body, same => by
      have isElse :
          rest =
            ⟨depth, .whenFalse⟩ ::
              (blockEntries (depth + 1) body ++ otherRest) :=
        same
      exact absurd (isElse ▸ ends) (not_endsStatement_whenFalse_cons _)
  | some body, none, same => by
      have isElse :
          otherRest =
            ⟨depth, .whenFalse⟩ :: (blockEntries (depth + 1) body ++ rest) :=
        same.symm
      exact absurd (isElse ▸ otherEnds) (not_endsStatement_whenFalse_cons _)
  | some body, some otherBody, same => by
      obtain ⟨-, behind⟩ := List.cons.inj same
      obtain ⟨bodies, rests⟩ :=
        blockUnplaced_eq_of_blockEntries_append_eq ends.endsBlock
          otherEnds.endsBlock body otherBody behind
      exact ⟨by rw [elseUnplaced, elseUnplaced, bodies], rests⟩

end

end Statement

end OwlScript
