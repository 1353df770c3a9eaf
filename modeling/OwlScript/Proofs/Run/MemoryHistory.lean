import Mathlib.Data.List.Dedup
import OwlScript.Proofs.Run.MentionedNames
import OwlScript.Proofs.Run.StoredRoom
import OwlScript.Proofs.Run.Writing

namespace OwlScript

/-!
# Histories of an interpreter

What an interpreter holds is known from its history: from the programs executed
since the last reset, and from the simple statements that these have completed.
A statement keeps what is known of the variables, and so does a run, however it
ends.  The report on the memory is read off what is known.
-/

namespace Interpreter

/-- What is done with an interpreter, whatever output and trace a run gets. -/
inductive Action where
  | execute (program : Program) (output : Sink) (trace : RunTrace)
  | reset

/-- Whether the action executes a program. -/
def Action.isExecute : Action → Bool
  | .execute .. => true
  | .reset => false

/-- The interpreter after an action, unless a run does not finish. -/
def act
    (rounds : Nat)
    (interpreter : Interpreter) :
    Action → Option Interpreter
  | .execute program output trace =>
      (program.run rounds ⟨interpreter, output, trace⟩).state?.map
        Execution.interpreter
  | .reset => some interpreter.reset

/--
A new interpreter after some actions, the latest of them first, unless a run
does not finish.
-/
def afterActions (rounds : Nat) : List Action → Option Interpreter
  | [] => some fresh
  | latest :: earlier => do
      let interpreter ← afterActions rounds earlier
      interpreter.act rounds latest

/-- How many programs have been executed since the last reset. -/
def executesSinceReset (actions : List Action) : Nat :=
  (actions.takeWhile Action.isExecute).length

/--
The statements are the simple ones that the programs executed since the last
reset have completed, in order, and the interpreter is what they lead to.
-/
inductive CompletedSinceReset :
    List Action → Interpreter → List Statement → Prop where
  | new :
      CompletedSinceReset [] fresh []
  | executed
      {earlier : List Action}
      {interpreter : Interpreter}
      {before completed : List Statement}
      {program : Program}
      {output : Sink}
      {trace : RunTrace}
      {ending : Ending}
      {last : Execution}
      (known : CompletedSinceReset earlier interpreter before)
      (unrolls :
        Unrolls program.statements
          ((Execution.mk interpreter output trace).counted
            program.statements.length).untraced
          completed ending last) :
      CompletedSinceReset (.execute program output trace :: earlier)
        last.interpreter (before ++ completed)
  | reset
      {earlier : List Action}
      {interpreter : Interpreter}
      {before : List Statement}
      (known : CompletedSinceReset earlier interpreter before) :
      CompletedSinceReset (.reset :: earlier) fresh []

end Interpreter

namespace Statement

/-- What the statement stores under a name, if it stores something there. -/
def storedAs? (name : String) : Statement → Option Expression
  | .bind _ target value => if target = name then some value else none
  | .assign _ target value => if target = name then some value else none
  | _ => none

end Statement

/-- What the last of the statements that store under the name stores there. -/
def lastStoredAs?
    (name : String)
    (completed : List Statement) :
    Option Expression :=
  (completed.filterMap (Statement.storedAs? name)).getLast?

/-- What was last stored is what the last statement stored, if it stored any. -/
theorem lastStoredAs?_append_singleton
    (name : String)
    (completed : List Statement)
    (statement : Statement) :
    lastStoredAs? name (completed ++ [statement]) =
      (statement.storedAs? name).or (lastStoredAs? name completed) := by
  unfold lastStoredAs?
  rw [List.filterMap_append, List.getLast?_append]
  cases stored : statement.storedAs? name with
  | none =>
      simp [stored]
  | some value =>
      simp [stored]

namespace Statement

/--
What a simple statement does to the interpreter when it completes.  It stores
the value of an expression under a name that is bound from then on, or it stores
nothing.
-/
inductive Stores (before : Interpreter) : Statement → Interpreter → Prop where
  | bind
      {position : Position}
      {name : String}
      {value : Expression}
      {stored : Stored}
      (evaluated : value.evaluate before.globals = .ok stored) :
      Stores before (.bind position name value)
        ⟨before.globals.insert name stored, before.runs⟩
  | assign
      {position : Position}
      {name : String}
      {value : Expression}
      {stored : Stored}
      (evaluated : value.evaluate before.globals = .ok stored)
      (contained : before.globals.contains name = true) :
      Stores before (.assign position name value)
        ⟨before.globals.insert name stored, before.runs⟩
  | nothing
      {statement : Statement}
      (noTarget : statement.target? = none) :
      Stores before statement before

/-- Storing a value does not count as a run. -/
theorem Stores.runs_eq
    {statement : Statement}
    {before after : Interpreter}
    (stores : statement.Stores before after) :
    after.runs = before.runs := by
  cases stores <;> rfl

variable {statement : Statement}
variable {state next : Execution}

/-- A simple statement that completes stores what it should. -/
theorem stores_of_completed
    (simple : statement.isSimple = true)
    (executed : statement.execute 0 state = .completed next) :
    Stores state.interpreter statement next.interpreter := by
  cases statement with
  | branch position condition thenBody elseBody =>
      cases simple
  | loop position condition body =>
      cases simple
  | bind position name value =>
      simp only [execute, executeBind] at executed
      split at executed
      · cases executed
      · next stored evaluated =>
          cases executed
          exact .bind evaluated
  | assign position name value =>
      simp only [execute, executeAssign] at executed
      split at executed
      · cases executed
      · next stored evaluated =>
          split at executed
          · next contained =>
              cases executed
              exact .assign evaluated contained
          · cases executed
  | print position arguments =>
      simp only [execute, executePrint] at executed
      split at executed
      · cases executed
      · have left := congrArg Outcome.state? executed
        rw [Execution.interpreter_of_write left]
        exact .nothing rfl
  | evaluate expression =>
      simp only [execute, executeEvaluate] at executed
      split at executed
      · cases executed
      · cases executed
        exact .nothing rfl

/-- A simple statement that fails may have written, but it stores nothing. -/
theorem interpreter_of_failed
    {failure : Failure}
    (simple : statement.isSimple = true)
    (executed : statement.execute 0 state = .failed failure next) :
    next.interpreter = state.interpreter := by
  cases statement with
  | branch position condition thenBody elseBody =>
      cases simple
  | loop position condition body =>
      cases simple
  | bind position name value =>
      simp only [execute, executeBind] at executed
      split at executed
      · cases executed
        rfl
      · cases executed
  | assign position name value =>
      simp only [execute, executeAssign] at executed
      split at executed
      · cases executed
        rfl
      · split at executed
        · cases executed
        · cases executed
          rfl
  | print position arguments =>
      simp only [execute, executePrint] at executed
      split at executed
      · cases executed
        rfl
      · exact Execution.interpreter_of_write (congrArg Outcome.state? executed)
  | evaluate expression =>
      simp only [execute, executeEvaluate] at executed
      split at executed
      · cases executed
        rfl
      · cases executed

end Statement

/--
What is known of variables when some statements have been completed.  The names
bound are those of the `let` statements among them, and a value comes of the
expression that was stored last under its name.
-/
structure Globals.Records
    (completed : List Statement)
    (globals : Globals) : Prop where
  distinct : globals.names.Nodup
  bound :
    ∀ name,
      name ∈ globals.names ↔
        name ∈ completed.filterMap Statement.introduced?
  stored :
    ∀ name stored, globals.get? name = some stored →
      ∃ value,
        lastStoredAs? name completed = some value ∧ stored.ComesOf value

namespace Globals.Records

variable {completed : List Statement}
variable {globals : Globals}

/-- Nothing is recorded of no statements. -/
theorem empty : Records [] Globals.empty where
  distinct := List.nodup_nil
  bound _ := Iff.rfl
  stored _ _ := nofun

/-- The names of variables stay different when one is stored. -/
theorem distinct_insert
    (records : globals.Records completed)
    (name : String)
    (stored : Stored) :
    (globals.insert name stored).names.Nodup := by
  rw [names_insert]
  split
  · exact records.distinct
  · next isNew =>
      exact List.nodup_append.2
        ⟨records.distinct, List.nodup_singleton name, by grind⟩

/-- Storing a value is recorded as the last thing stored under its name. -/
theorem stored_insert
    (records : globals.Records completed)
    {statement : Statement}
    {name : String}
    {value : Expression}
    {stored : Stored}
    (comesOf : stored.ComesOf value)
    (stores :
      ∀ other,
        statement.storedAs? other = if name = other then some value else none)
    (other : String)
    (found : Stored)
    (isFound : (globals.insert name stored).get? other = some found) :
    ∃ last,
      lastStoredAs? other (completed ++ [statement]) = some last ∧
        found.ComesOf last := by
  rw [get?_insert] at isFound
  rw [lastStoredAs?_append_singleton, stores]
  by_cases same : other = name
  · rw [if_pos same] at isFound
    cases isFound
    exact ⟨value, by rw [if_pos same.symm]; rfl, comesOf⟩
  · rw [if_neg same] at isFound
    obtain ⟨last, isLast, comes⟩ := records.stored other found isFound
    exact ⟨last, by rw [if_neg (Ne.symm same)]; exact isLast, comes⟩

/-- The step lemma: a simple statement that completes is recorded. -/
theorem step
    {statement : Statement}
    {before after : Interpreter}
    (records : before.globals.Records completed)
    (stores : statement.Stores before after) :
    after.globals.Records (completed ++ [statement]) := by
  cases stores with
  | @bind position name value stored evaluated =>
      refine ⟨records.distinct_insert name stored, ?_, ?_⟩
      · intro other
        have bound := records.bound other
        rw [names_insert]
        split <;> grind [Statement.introduced?]
      · exact records.stored_insert (Expression.comesOf_of_evaluate evaluated)
          fun _ => rfl
  | @assign position name value stored evaluated contained =>
      have isBound := (contains_iff_mem_names _ _).1 contained
      refine ⟨records.distinct_insert name stored, ?_, ?_⟩
      · intro other
        rw [names_insert, if_pos isBound, records.bound]
        simp [Statement.introduced?]
      · exact records.stored_insert (Expression.comesOf_of_evaluate evaluated)
          fun _ => rfl
  | nothing noTarget =>
      refine ⟨records.distinct, ?_, ?_⟩
      · intro other
        rw [records.bound]
        cases statement <;> simp_all [Statement.introduced?, Statement.target?]
      · intro other found isFound
        rw [lastStoredAs?_append_singleton]
        obtain ⟨last, isLast, comes⟩ := records.stored other found isFound
        refine ⟨last, ?_, comes⟩
        cases statement <;> simp_all [Statement.storedAs?, Statement.target?]

end Globals.Records

/--
The run lemma: whatever statements come to, what they complete is recorded.
-/
theorem Unrolls.records
    {block completed before : List Statement}
    {state last : Execution}
    {ending : Ending}
    (unrolls : Unrolls block state completed ending last)
    (records : state.globals.Records before) :
    last.globals.Records (before ++ completed) ∧
      last.interpreter.runs = state.interpreter.runs := by
  induction unrolls generalizing before with
  | reached state =>
      rw [List.append_nil]
      exact ⟨records, rfl⟩
  | @completes statement rest completed state next last ending simple executed
      later hypothesis =>
      have stores := Statement.stores_of_completed simple executed
      rw [List.append_cons, ← stores.runs_eq]
      exact hypothesis (records.step stores)
  | @fails statement rest state last failure simple executed =>
      have same := Statement.interpreter_of_failed simple executed
      rw [List.append_nil, Execution.globals, same]
      exact ⟨records, rfl⟩
  | branchThen holds later hypothesis =>
      exact hypothesis records
  | branchElse holds later hypothesis =>
      exact hypothesis records
  | branchFails holds =>
      rw [List.append_nil]
      exact ⟨records, rfl⟩
  | loopAgain holds later hypothesis =>
      exact hypothesis records
  | loopEnds holds later hypothesis =>
      exact hypothesis records
  | loopFails holds =>
      rw [List.append_nil]
      exact ⟨records, rfl⟩

namespace Interpreter

variable {rounds : Nat}
variable {actions : List Action}
variable {interpreter : Interpreter}
variable {completed : List Statement}

namespace CompletedSinceReset

/-- What has been completed since the last reset is recorded. -/
theorem records
    (known : CompletedSinceReset actions interpreter completed) :
    interpreter.globals.Records completed ∧
      interpreter.runs = executesSinceReset actions := by
  induction known with
  | new =>
      exact ⟨.empty, rfl⟩
  | executed known unrolls hypothesis =>
      obtain ⟨records, runs⟩ := hypothesis
      obtain ⟨afterRun, sameRuns⟩ := unrolls.records records
      refine ⟨afterRun, sameRuns.trans ?_⟩
      exact congrArg Nat.succ runs
  | reset known hypothesis =>
      exact ⟨.empty, rfl⟩

/-- Actions complete the same statements whenever they are carried out. -/
theorem unique
    (known : CompletedSinceReset actions interpreter completed)
    {otherInterpreter : Interpreter}
    {other : List Statement}
    (alsoKnown : CompletedSinceReset actions otherInterpreter other) :
    otherInterpreter = interpreter ∧ other = completed := by
  induction known generalizing otherInterpreter other with
  | new =>
      cases alsoKnown
      exact ⟨rfl, rfl⟩
  | executed known unrolls hypothesis =>
      cases alsoKnown with
      | executed alsoKnown alsoUnrolls =>
          obtain ⟨rfl, rfl⟩ := hypothesis alsoKnown
          obtain ⟨rfl, rfl, rfl⟩ := unrolls.unique alsoUnrolls
          exact ⟨rfl, rfl⟩
  | reset known hypothesis =>
      cases alsoKnown
      exact ⟨rfl, rfl⟩

end CompletedSinceReset

/-- Actions that finish have completed some statements. -/
theorem exists_completedSinceReset
    (performed : afterActions rounds actions = some interpreter) :
    ∃ completed, CompletedSinceReset actions interpreter completed := by
  induction actions generalizing interpreter with
  | nil =>
      cases performed
      exact ⟨[], .new⟩
  | cons latest earlier hypothesis =>
      obtain ⟨before, performedBefore, acted⟩ :=
        Option.bind_eq_some_iff.1 performed
      obtain ⟨completed, known⟩ := hypothesis performedBefore
      cases latest with
      | execute program output trace =>
          obtain ⟨last, finished, rfl⟩ := Option.map_eq_some_iff.1 acted
          rw [Program.run_eq] at finished
          obtain ⟨more, ending, unrolls, _⟩ :=
            Statement.exists_unrolls_of_executeBlock finished
          have knownAfter :
              CompletedSinceReset (.execute program output trace :: earlier)
                last.untraced.interpreter (completed ++ more) :=
            .executed known unrolls
          exact ⟨completed ++ more, knownAfter⟩
      | reset =>
          cases acted
          exact ⟨[], .reset known⟩

end Interpreter

namespace Globals

/-- What the variables take if each one takes so much for its name and value. -/
def total (bytes : String → Value → Nat) (globals : Globals) : Nat :=
  globals.bindings.foldr
    (fun binding rest => bytes binding.1 binding.2.value + rest)
    0

variable {globals : Globals}
variable {completed : List Statement}

/-- A bound name is found, if no name is bound twice. -/
theorem get?_of_mem
    (distinct : globals.names.Nodup)
    {name : String}
    {stored : Stored}
    (member : (name, stored) ∈ globals.bindings) :
    globals.get? name = some stored := by
  obtain ⟨before, behind, split⟩ := List.append_of_mem member
  refine List.lookup_eq_some_iff.2 ⟨before, behind, split, ?_⟩
  intro binding inFront
  rw [names, split, List.map_append, List.map_cons] at distinct
  have apart := (List.nodup_append.1 distinct).2.2 binding.1
    (List.mem_map_of_mem inFront) name List.mem_cons_self
  simpa using Ne.symm apart

/--
The bytes of the variables lie between their texts and the most room that these
may take.
-/
theorem heapBytes_between
    (bounds :
      ∀ binding ∈ globals.bindings,
        binding.2.value.textBytes ≤ binding.2.reserved ∧
          binding.2.reserved ≤ binding.2.value.mostRoom) :
    globals.total (fun name value => name.utf8ByteSize + value.textBytes) ≤
        globals.heapBytes ∧
      globals.heapBytes ≤
        globals.total fun name value =>
          name.utf8ByteSize + value.mostRoom := by
  obtain ⟨bindings⟩ := globals
  unfold heapBytes total
  dsimp only at bounds ⊢
  induction bindings with
  | nil =>
      exact ⟨Nat.le_refl 0, Nat.le_refl 0⟩
  | cons binding rest hypothesis =>
      obtain ⟨⟨enough, notMuchMore⟩, others⟩ := List.forall_mem_cons.1 bounds
      obtain ⟨lower, upper⟩ := hypothesis others
      simp only [List.foldr_cons]
      omega

namespace Records

/-- A variable that is recorded holds what was last stored under its name. -/
theorem comesOf_of_mem
    (records : globals.Records completed)
    {binding : String × Stored}
    (member : binding ∈ globals.bindings) :
    ∃ value,
      lastStoredAs? binding.1 completed = some value ∧
        binding.2.ComesOf value :=
  records.stored _ _ (get?_of_mem records.distinct member)

/-- There are as many variables as names that a `let` has introduced. -/
theorem size_eq (records : globals.Records completed) :
    globals.size =
      (completed.filterMap Statement.introduced?).dedup.length := by
  have same :
      globals.names.Perm
        (completed.filterMap Statement.introduced?).dedup := by
    refine (List.perm_ext_iff_of_nodup records.distinct
      (List.nodup_dedup _)).2 ?_
    intro name
    rw [List.mem_dedup, records.bound]
  rw [← same.length_eq, names, List.length_map, size]

end Records

end Globals

/-- There is a slot of the table for every variable. -/
theorem MemoryReport.slots_le_totalBytes (globals : Globals) (runs : Nat) :
    interpreterBytes + slotBytes * (of globals runs).bindings +
        (of globals runs).heapBytes ≤
      (of globals runs).totalBytes := by
  unfold of
  have enough := Nat.mul_le_mul_left slotBytes (le_slotsFor globals.size)
  dsimp only
  omega

/--
The report on the memory, for an interpreter with any history of programs that
finish, whether they fail or not, and of resets.  The runs are the programs
executed since the last reset, and the variables are the distinct names of the
`let` statements that these have completed.  The room for a stored text is
enough, it is at most twice as much or the least room, and nothing is to spare
unless what was stored last under the name is a sum.  So the bytes in use lie
between what names and texts take and what is the most for each of them, and
with a slot for every variable they are within the total.
-/
theorem Interpreter.memory_of_afterActions
    {rounds : Nat}
    {actions : List Action}
    {interpreter : Interpreter}
    (performed : afterActions rounds actions = some interpreter) :
    ∃ completed,
      CompletedSinceReset actions interpreter completed ∧
        (∀ otherInterpreter other,
          CompletedSinceReset actions otherInterpreter other →
            otherInterpreter = interpreter ∧ other = completed) ∧
        interpreter.memory.runs = executesSinceReset actions ∧
        interpreter.memory.bindings =
          (completed.filterMap Statement.introduced?).dedup.length ∧
        (∀ name text reserved,
          interpreter.globals.get? name = some ⟨.string text, reserved⟩ →
            text.utf8ByteSize ≤ reserved ∧
              reserved ≤ max 8 (2 * text.utf8ByteSize) ∧
              ∃ value,
                lastStoredAs? name completed = some value ∧
                  (¬value.IsSum → reserved = text.utf8ByteSize)) ∧
        interpreter.globals.total
            (fun name value => name.utf8ByteSize + value.textBytes) ≤
          interpreter.memory.heapBytes ∧
        interpreter.memory.heapBytes ≤
          interpreter.globals.total
            (fun name value => name.utf8ByteSize + value.mostRoom) ∧
        80 + 48 * interpreter.memory.bindings + interpreter.memory.heapBytes ≤
          interpreter.memory.totalBytes := by
  obtain ⟨completed, known⟩ := exists_completedSinceReset performed
  obtain ⟨records, runs⟩ := known.records
  obtain ⟨lower, upper⟩ :=
    Globals.heapBytes_between fun binding member =>
      have ⟨_, _, comesOf⟩ := records.comesOf_of_mem member
      comesOf.reserved_bounds
  refine ⟨completed, known, ?_, runs, records.size_eq, ?_, lower, upper,
    MemoryReport.slots_le_totalBytes _ _⟩
  · intro otherInterpreter other alsoKnown
    exact known.unique alsoKnown
  · intro name text reserved isStored
    obtain ⟨value, isLast, comesOf⟩ := records.stored _ _ isStored
    obtain ⟨enough, notMuchMore⟩ := comesOf.reserved_bounds
    exact ⟨enough, notMuchMore, value, isLast,
      comesOf.reserved_eq_of_not_isSum⟩

namespace Interpreter

/-- Binds two names to the same text. -/
def bindTwice : Program :=
  ⟨[.bind ⟨1, 1⟩ "s" (.literal ⟨1, 9⟩ (.string "ab")),
    .bind ⟨2, 1⟩ "t" (.reference ⟨2, 9⟩ "s")]⟩

/-- Doubles a text until it is long enough, and prints it. -/
def doubleThenPrint : Program :=
  ⟨[.loop ⟨1, 1⟩
      (.binary (.order .less) (.reference ⟨1, 7⟩ "s")
        (.literal ⟨1, 11⟩ (.string "ababababa")))
      [.assign ⟨1, 25⟩ "s"
        (.group ⟨1, 29⟩
          (.binary (.arithmetic .add) (.reference ⟨1, 30⟩ "s")
            (.reference ⟨1, 34⟩ "s")))],
    .print ⟨2, 1⟩ [.reference ⟨2, 7⟩ "s"]]⟩

/--
Two runs behind a reset.  The first run of all fails because the text is not
bound, and the last one because there is no room for output.
-/
def doubledBehindReset : List Action :=
  [.execute doubleThenPrint (.withRoom (some 0)) (.start true),
    .execute bindTwice .unlimited (.start false),
    .reset,
    .execute doubleThenPrint .unlimited (.start false)]

/--
Behind a reset, the memory is that of the two runs made since, whatever ran
before.
-/
theorem doubledBehindReset_memory :
    ∃ interpreter completed,
      afterActions 5 doubledBehindReset = some interpreter ∧
        CompletedSinceReset doubledBehindReset interpreter completed ∧
        interpreter.memory.runs = 2 ∧
        interpreter.memory.bindings =
          (completed.filterMap Statement.introduced?).dedup.length ∧
        80 + 48 * interpreter.memory.bindings +
            interpreter.memory.heapBytes ≤
          interpreter.memory.totalBytes := by
  have performed :
      afterActions 5 doubledBehindReset =
        some
          ⟨⟨[("s", ⟨.string "abababababababab", 16⟩),
              ("t", ⟨.string "ab", 2⟩)]⟩, 2⟩ := by
    decide +kernel
  obtain ⟨completed, known, _, runs, bindings, _, _, _, withinTotal⟩ :=
    memory_of_afterActions performed
  exact ⟨_, completed, performed, known, runs, bindings, withinTotal⟩

end Interpreter

end OwlScript
