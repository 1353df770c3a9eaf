namespace OwlScript

/-!
# Sinks

A sink takes text as bytes.  It may have room for a limited number of bytes
only; then a text that does not fit is delivered as far as it fits, and the
writing fails.  Of several texts, none is written behind the first that fails.
-/

/-- The bytes delivered so far and the room left, if it is limited. -/
structure Sink where
  delivered : ByteArray
  room : Option Nat

namespace Sink

/-- An empty sink with room for everything. -/
def unlimited : Sink :=
  ⟨ByteArray.empty, none⟩

/-- An empty sink with room for the given number of bytes, or for everything. -/
def withRoom (room : Option Nat) : Sink :=
  ⟨ByteArray.empty, room⟩

/-- Writes a text, and whether all of it fitted. -/
def write (sink : Sink) (text : String) : Bool × Sink :=
  let bytes := text.toUTF8
  match sink.room with
  | none => (true, ⟨sink.delivered ++ bytes, none⟩)
  | some room =>
      if bytes.size ≤ room then
        (true, ⟨sink.delivered ++ bytes, some (room - bytes.size)⟩)
      else
        (false, ⟨sink.delivered ++ bytes.extract 0 room, some 0⟩)

/-- Goes on to write behind what fitted, and stops behind what did not fit. -/
def andThen (next : Sink → Bool × Sink) : Bool × Sink → Bool × Sink
  | (true, after) => next after
  | (false, after) => (false, after)

/-- Writes things one after the other up to the first that does not fit. -/
def writeAll {α : Type} (writeOne : α → Sink → Bool × Sink) :
    List α → Sink → Bool × Sink
  | [], sink => (true, sink)
  | thing :: rest, sink =>
      match writeOne thing sink with
      | (true, after) => writeAll writeOne rest after
      | (false, after) => (false, after)

/-- Writes texts one after the other up to the first that does not fit. -/
def writeEach (texts : List String) (sink : Sink) : Bool × Sink :=
  writeAll (fun text before => before.write text) texts sink

/-- A sink with room for everything takes every text whole. -/
theorem write_of_unlimited
    {sink : Sink}
    (unlimited : sink.room = none)
    (text : String) :
    sink.write text = (true, ⟨sink.delivered ++ text.toUTF8, none⟩) := by
  simp [write, unlimited]

end Sink

end OwlScript
