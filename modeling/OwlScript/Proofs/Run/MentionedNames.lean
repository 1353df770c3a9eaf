import OwlScript.Proofs.Run.Simulation

namespace OwlScript

/-!
# Runs and the names they mention

A run looks at the variables that its program mentions and at no others, so
two interpreters that agree on these run the program alike.  It changes only
the targets of the program, and binds only those of them anew that are behind
a `let`.  Bound names stay bound and keep their places.
-/

namespace Globals

/-- The bound names, the first bound one first. -/
def names (globals : Globals) : List String :=
  globals.bindings.map Prod.fst

/-- The same of the names are bound, and to the same values. -/
def AgreeOn (names : List String) (globals other : Globals) : Prop :=
  ∀ name ∈ names,
    (globals.get? name).map Stored.value = (other.get? name).map Stored.value

instance (names : List String) (globals other : Globals) :
    Decidable (globals.AgreeOn names other) :=
  inferInstanceAs (Decidable (∀ name ∈ names, _ = _))

/--
Later variables that differ from earlier ones in targets only.  Names bound
since then are behind the others, each of them once.
-/
structure Extends
    (targets introduced : List String)
    (before after : Globals) : Prop where
  kept : ∀ name, name ∉ targets → after.get? name = before.get? name
  order :
    ∃ added,
      after.names = before.names ++ added ∧
        added.Nodup ∧
          ∀ name ∈ added, name ∉ before.names ∧ name ∈ introduced

/-- A name is bound if it is among the names of the variables. -/
theorem contains_iff_mem_names (globals : Globals) (name : String) :
    globals.contains name = true ↔ name ∈ globals.names := by
  rcases globals with ⟨bindings⟩
  simp only [contains, get?, names]
  induction bindings with
  | nil =>
      simp
  | cons binding rest hypothesis =>
      rcases binding with ⟨key, stored⟩
      by_cases same : name = key
      · simp [same]
      · have differs : (name == key) = false := by simpa using same
        simp [List.lookup_cons, differs, hypothesis, same]

/-- A bound name keeps its place, and another one comes last. -/
theorem names_insert
    (globals : Globals)
    (name : String)
    (stored : Stored) :
    (globals.insert name stored).names =
      if name ∈ globals.names then
        globals.names
      else
        globals.names ++ [name] := by
  rcases globals with ⟨bindings⟩
  simp only [insert, names]
  induction bindings with
  | nil =>
      simp [insertInto]
  | cons binding rest hypothesis =>
      rcases binding with ⟨key, first⟩
      by_cases same : key = name
      · simp [insertInto, same]
      · have differs : (key == name) = false := by simpa using same
        have differsToo : name ≠ key := Ne.symm same
        by_cases bound : name ∈ rest.map Prod.fst
        · simp [insertInto, differs, hypothesis, bound]
        · simp [insertInto, differs, hypothesis, bound, differsToo]

namespace AgreeOn

variable {names : List String}
variable {globals other : Globals}

/-- Variables that agree on some names agree on fewer of them. -/
theorem mono
    {fewer : List String}
    (agree : globals.AgreeOn names other)
    (subset : fewer ⊆ names) :
    globals.AgreeOn fewer other :=
  fun name occurs => agree name (subset occurs)

/-- Of a name on which variables agree, both or neither has a value. -/
theorem contains
    (agree : globals.AgreeOn names other)
    {name : String}
    (occurs : name ∈ names) :
    globals.contains name = other.contains name := by
  have same := congrArg Option.isSome (agree name occurs)
  simpa [Globals.contains] using same

/-- Storing the same value in both keeps the agreement. -/
theorem insert
    (agree : globals.AgreeOn names other)
    (name : String)
    (stored : Stored) :
    (globals.insert name stored).AgreeOn names (other.insert name stored) := by
  intro looked occurs
  simp only [get?_insert]
  by_cases same : looked = name
  · simp [same]
  · simpa [same] using agree looked occurs

end AgreeOn

namespace Extends

variable {targets introduced : List String}
variable {before after : Globals}

/-- Variables extend themselves. -/
theorem refl (globals : Globals) :
    Extends targets introduced globals globals where
  kept _ _ := rfl
  order := ⟨[], by simp⟩

/-- A target is given a value that is bound already, or that may be bound. -/
theorem insert
    (later : Extends targets introduced before after)
    {name : String}
    (isTarget : name ∈ targets)
    (mayBind : after.contains name = true ∨ name ∈ introduced)
    (stored : Stored) :
    Extends targets introduced before (after.insert name stored) where
  kept other notTarget := by
    have differs : other ≠ name := fun same => notTarget (same ▸ isTarget)
    simpa [differs] using later.kept other notTarget
  order := by
    obtain ⟨added, order, distinct, isNew⟩ := later.order
    rw [names_insert]
    by_cases bound : name ∈ after.names
    · exact ⟨added, by simpa [bound] using order, distinct, isNew⟩
    · have isIntroduced : name ∈ introduced :=
        mayBind.resolve_left
          fun contained => bound ((contains_iff_mem_names _ _).1 contained)
      rw [order, List.mem_append, not_or] at bound
      refine ⟨added ++ [name], by simp [order, bound], ?_, ?_⟩
      · simpa [List.nodup_append] using
          ⟨distinct, fun other inAdded same => bound.2 (same ▸ inAdded)⟩
      · intro other inAdded
        rcases List.mem_append.1 inAdded with wasAdded | isLast
        · exact isNew other wasAdded
        · rw [List.mem_singleton.1 isLast]
          exact ⟨bound.1, isIntroduced⟩

end Extends

end Globals

namespace Expression

/-- The value of an expression depends only on the variables in it. -/
theorem evaluate_congr
    {globals other : Globals}
    (expression : Expression)
    (agree : globals.AgreeOn expression.names other) :
    expression.evaluate globals = expression.evaluate other := by
  induction expression with
  | literal position value =>
      rfl
  | reference position name =>
      have same := agree name (List.mem_singleton.2 rfl)
      simp only [evaluate]
      cases found : globals.get? name with
      | none =>
          cases otherFound : other.get? name with
          | none =>
              rfl
          | some stored =>
              simp [found, otherFound] at same
      | some stored =>
          cases otherFound : other.get? name with
          | none =>
              simp [found, otherFound] at same
          | some otherStored =>
              simp only [found, otherFound, Option.map_some,
                Option.some.injEq] at same
              simp only [same]
  | group position inner hypothesis =>
      simpa only [evaluate] using hypothesis agree
  | unary position operator operand hypothesis =>
      have same := hypothesis agree
      cases operator <;> simp only [evaluate, same]
  | binary operator left right leftHypothesis rightHypothesis =>
      have sameLeft :=
        leftHypothesis (agree.mono (List.subset_append_left _ _))
      have sameRight :=
        rightHypothesis (agree.mono (List.subset_append_right _ _))
      cases operator <;> simp only [evaluate, sameLeft, sameRight]

end Expression

namespace Program

variable {program : Program}

/-- The names in an expression of a program are mentioned by it. -/
theorem names_subset_mentioned
    {expression : Expression}
    (occurs : expression ∈ program.expressions) :
    expression.names ⊆ program.mentioned :=
  fun _ inNames =>
    List.mem_append_left _ (List.mem_flatMap_of_mem occurs inNames)

/-- The targets of a program are mentioned by it. -/
theorem targets_subset_mentioned : program.targets ⊆ program.mentioned :=
  List.subset_append_right _ _

/-- A name that a `let` statement of a program binds is introduced by it. -/
theorem mem_introduced
    {position : Position}
    {name : String}
    {value : Expression}
    (occurs : .bind position name value ∈ program.simpleStatements) :
    name ∈ program.introduced :=
  List.mem_filterMap.2 ⟨_, occurs, rfl⟩

/-- A name that a `let` statement binds is a target. -/
theorem mem_targets_of_bind
    {position : Position}
    {name : String}
    {value : Expression}
    (occurs : .bind position name value ∈ program.simpleStatements) :
    name ∈ program.targets :=
  List.mem_filterMap.2 ⟨_, occurs, rfl⟩

/-- A name that an assignment gives a value is a target. -/
theorem mem_targets_of_assign
    {position : Position}
    {name : String}
    {value : Expression}
    (occurs : .assign position name value ∈ program.simpleStatements) :
    name ∈ program.targets :=
  List.mem_filterMap.2 ⟨_, occurs, rfl⟩

end Program

/--
Two executions in the middle of a program that began with some variables each.
They agree on what the program mentions, and keep to what it may change.
-/
structure Execution.Alike
    (program : Program)
    (before otherBefore : Globals)
    (state other : Execution) : Prop where
  output : state.output = other.output
  agree : state.globals.AgreeOn program.mentioned other.globals
  changes :
    Globals.Extends program.targets program.introduced before state.globals
  otherChanges :
    Globals.Extends program.targets program.introduced otherBefore
      other.globals

/-- Every step of the program keeps the executions alike. -/
theorem Execution.Alike.simulation
    (program : Program)
    (before otherBefore : Globals) :
    Simulation program.simpleStatements program.expressions
      (Execution.Alike program before otherBefore) where
  record alike _ _ :=
    ⟨alike.output, alike.agree, alike.changes, alike.otherChanges⟩
  evaluate alike expression occurs :=
    expression.evaluate_congr
      (alike.agree.mono (Program.names_subset_mentioned occurs))
  contains alike _ _ _ occurs :=
    alike.agree.contains
      (Program.targets_subset_mentioned (Program.mem_targets_of_assign occurs))
  bind alike _ _ _ occurs stored :=
    have isTarget := Program.mem_targets_of_bind occurs
    have mayBind := Program.mem_introduced occurs
    { output := alike.output
      agree := alike.agree.insert _ stored
      changes := alike.changes.insert isTarget (.inr mayBind) stored
      otherChanges :=
        alike.otherChanges.insert isTarget (.inr mayBind) stored }
  assign alike _ _ _ occurs bound otherBound stored :=
    have isTarget := Program.mem_targets_of_assign occurs
    { output := alike.output
      agree := alike.agree.insert _ stored
      changes := alike.changes.insert isTarget (.inl bound) stored
      otherChanges :=
        alike.otherChanges.insert isTarget (.inl otherBound) stored }
  write alike text :=
    Execution.write_related alike.output
      (fun _ => ⟨rfl, alike.agree, alike.changes, alike.otherChanges⟩) text

namespace Program

/--
A run depends on the variables that the program mentions, and changes only the
targets among them.  From two interpreters that agree on the mentioned names
the program comes out alike: both runs finish or neither does, with the same
output and the same failure, and they agree on these names again.  Either of
them, whether it fails or not, keeps what is no target, keeps the bound names
in their order, and binds behind them only names of a `let`, each once.
-/
theorem run_related_of_agreeOn_mentioned
    (rounds : Nat)
    (program : Program)
    {state other : Execution}
    (agree : state.globals.AgreeOn program.mentioned other.globals)
    (sameOutput : state.output = other.output) :
    (program.run rounds state).Related
      (Execution.Alike program state.globals other.globals)
      (program.run rounds other) := by
  apply run_related (Execution.Alike.simulation program _ _)
  exact
    { output := sameOutput
      agree := agree
      changes := .refl _
      otherChanges := .refl _ }

/-- A program that fails behind a new binding, in the middle of a loop. -/
def bindThenFail : Program :=
  ⟨[.loop ⟨1, 1⟩ (.literal ⟨1, 7⟩ (.bool true))
      [.print ⟨1, 14⟩ [.reference ⟨1, 20⟩ "a"],
        .bind ⟨1, 23⟩ "b" (.reference ⟨1, 31⟩ "a"),
        .assign ⟨1, 34⟩ "c" (.reference ⟨1, 38⟩ "b")]]⟩

/--
From variables that agree on what is mentioned, a program that binds a name and
then fails leaves states that are alike.
-/
theorem bindThenFail_run_related :
    let state : Execution :=
      ⟨⟨⟨[("z", .exact (.int 1)), ("a", .exact .nil)]⟩, 3⟩, .unlimited,
        .start true⟩
    let other : Execution :=
      ⟨⟨⟨[("a", .exact .nil), ("y", .exact (.string "c"))]⟩, 0⟩, .unlimited,
        .start false⟩
    state.globals.AgreeOn bindThenFail.mentioned other.globals ∧
      state.output = other.output ∧
        (bindThenFail.run 2 state).Related
          (Execution.Alike bindThenFail state.globals other.globals)
          (bindThenFail.run 2 other) := by
  intro state other
  have agree : state.globals.AgreeOn bindThenFail.mentioned other.globals := by
    decide +kernel
  exact ⟨agree, rfl,
    run_related_of_agreeOn_mentioned 2 bindThenFail agree rfl⟩

end Program

end OwlScript
