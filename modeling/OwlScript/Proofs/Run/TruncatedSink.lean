import OwlScript.Proofs.Run.Writing
import OwlScript.Proofs.Run.WrittenPieces

namespace OwlScript

/-!
# Sinks with a limit

A sink with a limit takes what a sink without one takes, up to the first text
that does not fit; of that it delivers what fits, and then it is full.  So it
always has the first bytes of what the other one has.
-/

/-- The first bytes of what is delivered, and no room behind them. -/
def Sink.cutAt (limit : Nat) (bytes : ByteArray) : Sink :=
  ⟨bytes.extract 0 limit, some 0⟩

/--
A sink without a limit and one with it that have taken the same so far, and
all of it has fitted.
-/
structure Sink.InStep (full : Sink) (limit : Nat) (limited : Sink) : Prop where
  unlimited : full.room = none
  delivered : limited.delivered = full.delivered
  fits : full.delivered.size ≤ limit
  room : limited.room = some (limit - full.delivered.size)

/--
A sink without a limit that has taken more than the limit, and one with it
that has been cut off.
-/
structure Sink.CutOff (full : Sink) (limit : Nat) (limited : Sink) : Prop where
  unlimited : full.room = none
  crossed : limit < full.delivered.size
  cut : limited = .cutAt limit full.delivered

/-- What comes of writing one text to two sinks that were in step. -/
inductive Sink.Truncates (limit : Nat) : Bool × Sink → Bool × Sink → Prop where
  | inStep
      {after otherAfter : Sink}
      (inStep : after.InStep limit otherAfter) :
      Truncates limit (true, after) (true, otherAfter)
  | cutOff
      {after otherAfter : Sink}
      (cutOff : after.CutOff limit otherAfter) :
      Truncates limit (true, after) (false, otherAfter)

namespace Sink

variable {limit : Nat}
variable {sink after full limited : Sink}

/-- An unlimited output and an empty one with a limit are in step. -/
theorem inStep_withRoom (limit : Nat) :
    unlimited.InStep limit (withRoom (some limit)) where
  unlimited := rfl
  delivered := rfl
  fits := Nat.zero_le limit
  room := rfl

/-- Cut off at a limit, an output has what the full one has up to there. -/
theorem CutOff.delivered (cutOff : full.CutOff limit limited) :
    limited.delivered = full.delivered.extract 0 limit := by
  rw [cutOff.cut, cutAt]

/--
In step with a full output, a limited one has what that has up to the limit.
-/
theorem InStep.delivered_eq_extract (inStep : full.InStep limit limited) :
    limited.delivered = full.delivered.extract 0 limit := by
  rw [inStep.delivered, extract_eq_self_of_le inStep.fits]

/-- A sink without a limit goes on behind what it has delivered. -/
theorem delivered_write
    (unlimited : full.room = none)
    (text : String) :
    (full.write text).2.delivered = full.delivered ++ text.toUTF8 := by
  rw [write_of_unlimited unlimited]

/-- A sink without room stays as it is when something is written to it. -/
theorem write_of_full
    (isFull : limited.room = some 0)
    (text : String) :
    (limited.write text).2 = limited := by
  obtain ⟨delivered, room⟩ := limited
  obtain rfl : room = some 0 := isFull
  simp only [write]
  split
  · next fits =>
      have isEmpty : text.toUTF8 = ByteArray.empty :=
        ByteArray.size_eq_zero_iff.1 (Nat.le_zero.1 fits)
      rw [isEmpty, ByteArray.append_empty, ByteArray.size_empty]
  · rw [ByteArray.extract_same, ByteArray.append_empty]

/-- A text that fits leaves both in step, and any other one cuts one off. -/
theorem InStep.write
    (inStep : full.InStep limit limited)
    (text : String) :
    Truncates limit (full.write text) (limited.write text) := by
  have bound := inStep.fits
  have sizes := @ByteArray.size_append full.delivered text.toUTF8
  rw [write_of_unlimited inStep.unlimited]
  simp only [Sink.write, inStep.room]
  by_cases fits : text.toUTF8.size ≤ limit - full.delivered.size
  · rw [if_pos fits]
    refine .inStep ?_
    exact
      { unlimited := rfl
        delivered := by rw [inStep.delivered]
        fits := by dsimp only; omega
        room := by rw [sizes, Nat.sub_sub] }
  · rw [if_neg fits]
    refine .cutOff ?_
    exact
      { unlimited := rfl
        crossed := by dsimp only; omega
        cut := by
          rw [cutAt, ByteArray.extract_append, Nat.zero_sub,
            extract_eq_self_of_le bound, inStep.delivered] }

/-- A sink without room stays as it is, whatever is written to it. -/
theorem LeadsTo.eq_of_full
    (leads : sink.LeadsTo after)
    (isFull : sink.room = some 0) :
    after = sink := by
  induction leads with
  | nothing =>
      rfl
  | write _ text hypothesis =>
      rw [hypothesis, write_of_full isFull]

/--
Once the limit has been crossed, nothing more is delivered, even if other texts
are written from then on.
-/
theorem CutOff.of_leadsTo
    {later otherLater : Sink}
    (cutOff : full.CutOff limit limited)
    (leads : full.LeadsTo later)
    (otherLeads : limited.LeadsTo otherLater) :
    later.CutOff limit otherLater := by
  have crossed := cutOff.crossed
  have isFull : limited.room = some 0 := by
    rw [cutOff.cut, cutAt]
  obtain ⟨room, more, delivered⟩ := leads.exists_delivered cutOff.unlimited
  rw [otherLeads.eq_of_full isFull]
  exact
    { unlimited := room
      crossed := by
        rw [delivered, ByteArray.size_append]
        omega
      cut := by
        rw [delivered, cutOff.cut, cutAt, cutAt,
          extract_append_of_le (Nat.le_of_lt crossed)] }

end Sink

end OwlScript
