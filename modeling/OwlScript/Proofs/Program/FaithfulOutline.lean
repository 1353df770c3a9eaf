import OwlScript.Proofs.Number.LiteralText
import OwlScript.Proofs.Program.OutlineEntries
import OwlScript.Proofs.Program.Parts
import OwlScript.Proofs.Run.Comparison
import OwlScript.Proofs.Script.Layout
import OwlScript.Proofs.Text.PrefixCodes

namespace OwlScript

/-!
# Faithful outlines

An outline tells the whole program apart from its positions.  Its text tells
the lines, because no label holds a line feed or begins with a space; a line
tells its entry, because every label begins with a word of its own and goes on
with a name or a literal in a form that tells it; and the entries tell the
program.  Numbers that are none all have one literal, so that a program with
such a literal is left out.
-/

/-! ### Literals -/

namespace Value

end Value

/-! ### Labels -/

namespace Heading

/-- The label of a line with the heading. -/
def text : Heading → String
  | .value literal => literal.literalText
  | .reference name => "Variable " ++ name
  | .prefixed operator => "Unary " ++ operator.name
  | .between operator => "Binary " ++ operator.name
  | .group => "Group"
  | .bind name => "Let " ++ name
  | .assign name => "Assign " ++ name
  | .print => "Print"
  | .branch => "If"
  | .whenTrue => "Then"
  | .whenFalse => "Else"
  | .loop => "While"
  | .body => "Do"
  | .evaluate => "ExprStmt"

/-- Whether the name is one line and the literal is not one of no number. -/
def IsPlain : Heading → Prop
  | .value literal => literal.isNaN = false
  | .reference name => '\n' ∉ name.toList
  | .bind name => '\n' ∉ name.toList
  | .assign name => '\n' ∉ name.toList
  | _ => True

end Heading

/-! ### Lines -/

namespace OutlineEntry

/-- The line of an outline that says the entry. -/
def line (entry : OutlineEntry) : OutlineLine :=
  ⟨entry.depth, entry.heading.text⟩

/-- The characters of the line with the entry. -/
def characters (entry : OutlineEntry) : List Char :=
  entry.line.text.toList

end OutlineEntry

/-! ### Outlines -/

/-- The outline of an expression has a line for each of its entries. -/
theorem Expression.outline_eq_map_entries
    (depth : Nat)
    (expression : Expression) :
    expression.outline depth =
      (expression.entries depth).map OutlineEntry.line := by
  induction expression generalizing depth with
  | literal position value =>
      rfl
  | reference position name =>
      rfl
  | unary position operator operand hypothesis =>
      rw [outline, entries, List.map_cons, hypothesis]
      rfl
  | binary operator left right leftHypothesis rightHypothesis =>
      rw [outline, entries, List.map_cons, List.map_append, leftHypothesis,
        rightHypothesis]
      rfl
  | group position inner hypothesis =>
      rw [outline, entries, List.map_cons, hypothesis]
      rfl

namespace Statement

/-- So have the outlines of expressions in a row. -/
theorem flatMap_outline_eq_map_entries
    (depth : Nat)
    (row : List Expression) :
    row.flatMap (Expression.outline depth) =
      (row.flatMap (Expression.entries depth)).map OutlineEntry.line := by
  rw [List.map_flatMap]
  exact congrArg row.flatMap
    (funext fun expression => expression.outline_eq_map_entries depth)

mutual

/-- The outline of a statement has a line for each of its entries. -/
theorem outline_eq_map_entries (depth : Nat) :
    (statement : Statement) →
      statement.outline depth =
        (statement.entries depth).map OutlineEntry.line
  | .bind _ name value => by
      rw [outline, entries, List.map_cons, value.outline_eq_map_entries]
      rfl
  | .assign _ name value => by
      rw [outline, entries, List.map_cons, value.outline_eq_map_entries]
      rfl
  | .print _ arguments => by
      rw [outline, entries, List.map_cons, flatMap_outline_eq_map_entries]
      rfl
  | .branch _ condition thenBody none => by
      simp [outline, entries, elseEntries, OutlineEntry.line, Heading.text,
        condition.outline_eq_map_entries,
        blockOutlineFrom_eq_map_entries (depth + 1) thenBody]
  | .branch _ condition thenBody (some body) => by
      simp [outline, entries, elseEntries, OutlineEntry.line, Heading.text,
        condition.outline_eq_map_entries,
        blockOutlineFrom_eq_map_entries (depth + 1) thenBody,
        blockOutlineFrom_eq_map_entries (depth + 1) body]
  | .loop _ condition body => by
      simp [outline, entries, OutlineEntry.line, Heading.text,
        condition.outline_eq_map_entries,
        blockOutlineFrom_eq_map_entries (depth + 1) body]
  | .evaluate expression => by
      rw [outline, entries, List.map_cons, expression.outline_eq_map_entries]
      rfl

/-- So has the outline of a block, behind the lines found. -/
theorem blockOutlineFrom_eq_map_entries (depth : Nat) :
    (block : List Statement) →
      (found : List OutlineLine) →
        blockOutlineFrom depth found block =
          found.reverse ++ (blockEntries depth block).map OutlineEntry.line
  | [], found => by
      simp [blockOutlineFrom, blockEntries]
  | statement :: rest, found => by
      rw [blockOutlineFrom, blockOutlineFrom_eq_map_entries depth rest,
        outline_eq_map_entries depth statement]
      simp [blockEntries]

end

end Statement

/-! ### Plain programs -/

/--
Whether no name in these expressions and simple statements has a line feed in
it, and no literal is one of no number.
-/
structure PlainParts
    (expressions : List Expression)
    (statements : List Statement) : Prop where
  names :
    ∀ expression ∈ expressions, ∀ name ∈ expression.names,
      '\n' ∉ name.toList
  literals :
    ∀ expression ∈ expressions, ∀ value ∈ expression.literals,
      value.isNaN = false
  targets :
    ∀ statement ∈ statements, ∀ name ∈ statement.target?,
      '\n' ∉ name.toList

/-- What is plain in parts is plain in fewer of them. -/
theorem PlainParts.mono
    {expressions inner : List Expression}
    {statements innerStatements : List Statement}
    (plain : PlainParts expressions statements)
    (fewer : inner ⊆ expressions)
    (fewerStatements : innerStatements ⊆ statements) :
    PlainParts inner innerStatements where
  names expression member := plain.names expression (fewer member)
  literals expression member := plain.literals expression (fewer member)
  targets statement member := plain.targets statement (fewerStatements member)

/-- An expression with plain names and literals has plain entries. -/
theorem Expression.isPlain_of_mem_entries
    {depth : Nat}
    {expression : Expression}
    (names : ∀ name ∈ expression.names, '\n' ∉ name.toList)
    (literals : ∀ value ∈ expression.literals, value.isNaN = false) :
    ∀ entry ∈ expression.entries depth, entry.heading.IsPlain := by
  induction expression generalizing depth with
  | literal position value =>
      exact List.forall_mem_singleton.2 (literals value List.mem_cons_self)
  | reference position name =>
      exact List.forall_mem_singleton.2 (names name List.mem_cons_self)
  | unary position operator operand hypothesis =>
      exact List.forall_mem_cons.2 ⟨trivial, hypothesis names literals⟩
  | binary operator left right leftHypothesis rightHypothesis =>
      obtain ⟨leftNames, rightNames⟩ := List.forall_mem_append.1 names
      obtain ⟨leftLiterals, rightLiterals⟩ :=
        List.forall_mem_append.1 literals
      exact List.forall_mem_cons.2
        ⟨trivial, List.forall_mem_append.2
          ⟨leftHypothesis leftNames leftLiterals,
            rightHypothesis rightNames rightLiterals⟩⟩
  | group position inner hypothesis =>
      exact List.forall_mem_cons.2 ⟨trivial, hypothesis names literals⟩

/-- The expressions among plain parts have plain entries. -/
theorem PlainParts.isPlain_of_mem_entries
    {expressions : List Expression}
    {statements : List Statement}
    {expression : Expression}
    (plain : PlainParts expressions statements)
    (member : expression ∈ expressions)
    (depth : Nat) :
    ∀ entry ∈ expression.entries depth, entry.heading.IsPlain :=
  Expression.isPlain_of_mem_entries (plain.names expression member)
    (plain.literals expression member)

namespace Statement

mutual

/-- A statement of plain parts has plain entries. -/
theorem isPlain_of_mem_entries
    (depth : Nat) :
    (statement : Statement) →
      PlainParts statement.expressions statement.simpleStatements →
        ∀ entry ∈ statement.entries depth, entry.heading.IsPlain
  | .bind _ name value, plain =>
      List.forall_mem_cons.2
        ⟨plain.targets _ List.mem_cons_self name rfl,
          plain.isPlain_of_mem_entries List.mem_cons_self (depth + 1)⟩
  | .assign _ name value, plain =>
      List.forall_mem_cons.2
        ⟨plain.targets _ List.mem_cons_self name rfl,
          plain.isPlain_of_mem_entries List.mem_cons_self (depth + 1)⟩
  | .print _ arguments, plain => by
      refine List.forall_mem_cons.2 ⟨trivial, ?_⟩
      intro entry member
      obtain ⟨argument, isArgument, inArgument⟩ := List.mem_flatMap.1 member
      exact plain.isPlain_of_mem_entries isArgument (depth + 1) entry
        inArgument
  | .branch _ condition thenBody elseBody, plain => by
      refine List.forall_mem_cons.2
        ⟨trivial, List.forall_mem_append.2 ⟨?_, List.forall_mem_cons.2
          ⟨trivial, List.forall_mem_append.2 ⟨?_, ?_⟩⟩⟩⟩
      · exact plain.isPlain_of_mem_entries List.mem_cons_self (depth + 1)
      · refine isPlain_of_mem_blockEntries (depth + 1) thenBody ?_
        refine plain.mono ?_ (List.subset_append_left _ _)
        exact List.subset_cons_of_subset _ (List.subset_append_left _ _)
      · refine isPlain_of_mem_elseEntries depth elseBody ?_
        refine plain.mono ?_ (List.subset_append_right _ _)
        exact List.subset_cons_of_subset _ (List.subset_append_right _ _)
  | .loop _ condition body, plain => by
      refine List.forall_mem_cons.2
        ⟨trivial, List.forall_mem_append.2 ⟨?_, List.forall_mem_cons.2
          ⟨trivial, ?_⟩⟩⟩
      · exact plain.isPlain_of_mem_entries List.mem_cons_self (depth + 1)
      · refine isPlain_of_mem_blockEntries (depth + 1) body ?_
        exact plain.mono (List.subset_cons_self _ _) (List.Subset.refl _)
  | .evaluate expression, plain =>
      List.forall_mem_cons.2
        ⟨trivial,
          plain.isPlain_of_mem_entries List.mem_cons_self (depth + 1)⟩

/-- A block of plain parts has plain entries. -/
theorem isPlain_of_mem_blockEntries
    (depth : Nat) :
    (block : List Statement) →
      PlainParts (blockExpressions block) (blockSimpleStatements block) →
        ∀ entry ∈ blockEntries depth block, entry.heading.IsPlain
  | [], _ => nofun
  | statement :: rest, plain => by
      refine List.forall_mem_append.2 ⟨?_, ?_⟩
      · refine isPlain_of_mem_entries depth statement ?_
        exact plain.mono (List.subset_append_left _ _)
          (List.subset_append_left _ _)
      · refine isPlain_of_mem_blockEntries depth rest ?_
        exact plain.mono (List.subset_append_right _ _)
          (List.subset_append_right _ _)

/-- So has what stands behind an `else`. -/
theorem isPlain_of_mem_elseEntries
    (depth : Nat) :
    (elseBody : Option (List Statement)) →
      PlainParts (elseExpressions elseBody) (elseSimpleStatements elseBody) →
        ∀ entry ∈ elseEntries depth elseBody, entry.heading.IsPlain
  | none, _ => nofun
  | some body, plain =>
      List.forall_mem_cons.2
        ⟨trivial, isPlain_of_mem_blockEntries (depth + 1) body plain⟩

end

end Statement

namespace Program

/-- The entries of the outline of a program below its first line. -/
def entries (program : Program) : List OutlineEntry :=
  Statement.blockEntries 1 program.statements

/-- Whether no name has a line feed in it and no literal is one of no number. -/
structure IsPlain (program : Program) : Prop where
  names : ∀ name ∈ program.mentioned, '\n' ∉ name.toList
  literals : ∀ value ∈ program.literals, value.isNaN = false

end Program

end OwlScript
