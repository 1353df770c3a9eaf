import OwlScript.Proofs.Run.Simulation

namespace OwlScript

/-!
# Runs and their output

What a run does to the variables does not depend on what has been written
before, as long as the output takes everything.  Two executions that differ
only in the bytes delivered in front stay so in every step.
-/

/--
Two sinks that take everything, where the first one has been given some bytes
in front of what the other one has been given.
-/
structure Sink.Behind (front : ByteArray) (sink other : Sink) : Prop where
  room : sink.room = none
  otherRoom : other.room = none
  delivered : sink.delivered = front ++ other.delivered

/-- The same text can be written to both, and they stay as far apart. -/
theorem Sink.Behind.write
    {front : ByteArray}
    {sink other : Sink}
    (behind : sink.Behind front other)
    (text : String) :
    ∃ after otherAfter,
      sink.write text = (true, after) ∧
        other.write text = (true, otherAfter) ∧
          after.Behind front otherAfter := by
  refine ⟨_, _, write_of_unlimited behind.room text,
    write_of_unlimited behind.otherRoom text, rfl, rfl, ?_⟩
  rw [behind.delivered, ByteArray.append_assoc]

/-- Two executions of the same interpreter, one with more bytes in front. -/
structure Execution.Behind
    (front : ByteArray)
    (state other : Execution) : Prop where
  interpreter : state.interpreter = other.interpreter
  output : state.output.Behind front other.output

namespace Execution.Behind

variable {front : ByteArray}
variable {state other : Execution}

/-- What was written before makes no difference to the variables. -/
theorem globals (behind : state.Behind front other) :
    state.globals = other.globals :=
  congrArg Interpreter.globals behind.interpreter

/-- What was written before makes no difference to storing a value. -/
theorem insert
    (behind : state.Behind front other)
    (name : String)
    (stored : Stored) :
    (state.insert name stored).Behind front (other.insert name stored) where
  interpreter := by
    unfold Execution.insert
    rw [behind.globals, behind.interpreter]
  output := behind.output

/-- What was written before makes no difference to writing more. -/
theorem write
    (behind : state.Behind front other)
    (text : String) :
    (state.write text).Related (Execution.Behind front)
      (other.write text) := by
  obtain ⟨after, otherAfter, written, otherWritten, behindAfter⟩ :=
    behind.output.write text
  unfold Execution.write Execution.deliver
  simp only [written, otherWritten]
  exact .completed ⟨behind.interpreter, behindAfter⟩

/-- Every step of every program keeps the executions side by side. -/
theorem simulation
    (statements : List Statement)
    (expressions : List Expression)
    (front : ByteArray) :
    Simulation statements expressions (Execution.Behind front) where
  record behind _ _ :=
    { interpreter := behind.interpreter
      output := behind.output }
  evaluate behind expression _ := by
    rw [behind.globals]
  contains behind _ _ _ _ := by
    rw [behind.globals]
  bind behind _ _ _ _ stored := behind.insert _ stored
  assign behind _ _ _ _ _ _ stored := behind.insert _ stored
  write behind text := behind.write text

end Execution.Behind

/-- A run does the same whatever was written before it. -/
theorem Program.run_behind
    {front : ByteArray}
    (rounds : Nat)
    (program : Program)
    {state other : Execution}
    (behind : state.Behind front other) :
    (program.run rounds state).Related (Execution.Behind front)
      (program.run rounds other) := by
  refine run_related (Execution.Behind.simulation _ _ front) rounds ?_
  constructor
  · simp only [Execution.counted, behind.interpreter]
  · exact behind.output

/-- An output that takes everything still does so after a run. -/
theorem Program.room_of_run
    {rounds : Nat}
    {program : Program}
    {start last : Execution}
    (unlimited : start.output.room = none)
    (finished : (program.run rounds start).state? = some last) :
    last.output.room = none := by
  have behind : start.Behind ByteArray.empty start :=
    { interpreter := rfl
      output :=
        { room := unlimited
          otherRoom := unlimited
          delivered := ByteArray.empty_append.symm } }
  obtain ⟨_, _, related⟩ :=
    (program.run_behind rounds behind).exists_state? finished
  exact related.output.room

end OwlScript
