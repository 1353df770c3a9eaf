import OwlScript.Run.Globals

namespace OwlScript

/-!
# Memory reports

A report counts what an interpreter holds: its variables, the bytes of their
names and texts, the table they are kept in, and the runs so far.  The table
has room for three variables at first and then for seven doubled as often as
needed.
-/

/-- What an interpreter holds. -/
structure MemoryReport where
  bindings : Nat
  heapBytes : Nat
  totalBytes : Nat
  runs : Nat
  deriving Repr, DecidableEq

/-- The bytes of an interpreter without variables. -/
def interpreterBytes : Nat :=
  80

/-- The bytes of one slot of the table. -/
def slotBytes : Nat :=
  48

/-- The slots doubled until they are enough, in at most the given rounds. -/
def doubledUntil (needed : Nat) : Nat → Nat → Nat
  | 0, slots => slots
  | rounds + 1, slots =>
      if needed ≤ slots then
        slots
      else
        doubledUntil needed rounds (2 * slots)

/-- The slots of a table for the given number of variables. -/
def slotsFor (bindings : Nat) : Nat :=
  if bindings = 0 then 0
  else if bindings ≤ 3 then 3
  else doubledUntil bindings bindings 7

/-- Doubling reaches what is needed if as many rounds are left as missing. -/
theorem le_doubledUntil
    {needed rounds slots : Nat}
    (positive : 0 < slots)
    (enough : needed ≤ slots + rounds) :
    needed ≤ doubledUntil needed rounds slots := by
  induction rounds generalizing slots with
  | zero => simpa [doubledUntil] using enough
  | succ rounds hypothesis =>
      by_cases reached : needed ≤ slots
      · simp [doubledUntil, reached]
      · rw [doubledUntil, if_neg reached]
        exact hypothesis (by omega) (by omega)

/-- The table has a slot for every variable. -/
theorem le_slotsFor (bindings : Nat) : bindings ≤ slotsFor bindings := by
  unfold slotsFor
  split
  · omega
  · split
    · omega
    · exact le_doubledUntil (by omega) (by omega)

namespace MemoryReport

/-- The report on some variables after some runs. -/
def of (globals : Globals) (runs : Nat) : MemoryReport where
  bindings := globals.size
  heapBytes := globals.heapBytes
  totalBytes :=
    interpreterBytes + slotBytes * slotsFor globals.size + globals.heapBytes
  runs := runs

/-- The written form, without a line feed at the end. -/
def text (report : MemoryReport) : String :=
  "OwlVM memory\n" ++
    "  bindings:    " ++ toString report.bindings ++ "\n" ++
    "  heap bytes:  " ++ toString report.heapBytes ++ "\n" ++
    "  total bytes: " ++ toString report.totalBytes ++ "\n" ++
    "  runs:        " ++ toString report.runs

end MemoryReport

end OwlScript
