import OwlScript.Value.Stored

namespace OwlScript

/-!
# Globals

The variables of an interpreter in the order in which they were first bound.
A name occurs at most once; binding it again keeps its place.
-/

/-- Names with their stored values, the first bound one first. -/
structure Globals where
  bindings : List (String × Stored)
  deriving DecidableEq

namespace Globals

/-- No variables. -/
def empty : Globals :=
  ⟨[]⟩

/-- The stored value of a name. -/
def get? (globals : Globals) (name : String) : Option Stored :=
  globals.bindings.lookup name

/-- Whether the name is bound. -/
def contains (globals : Globals) (name : String) : Bool :=
  (globals.get? name).isSome

/-- The bindings with the one of the name replaced, or put at the end. -/
def insertInto (name : String) (stored : Stored) :
    List (String × Stored) → List (String × Stored)
  | [] => [(name, stored)]
  | binding :: rest =>
      if binding.1 == name then
        (name, stored) :: rest
      else
        binding :: insertInto name stored rest

/-- The globals with the name bound to the value. -/
def insert (globals : Globals) (name : String) (stored : Stored) : Globals :=
  ⟨insertInto name stored globals.bindings⟩

/-- A name looked up behind a binding of the same or of another name. -/
theorem lookup_insertInto
    (name other : String)
    (stored : Stored)
    (bindings : List (String × Stored)) :
    (insertInto name stored bindings).lookup other =
      if other = name then some stored else bindings.lookup other := by
  induction bindings with
  | nil =>
      by_cases same : other = name
      · simp [insertInto, same]
      · have differs : (other == name) = false := by simpa using same
        simp [insertInto, List.lookup_cons, same, differs]
  | cons binding rest hypothesis =>
      obtain ⟨key, value⟩ := binding
      by_cases first : key = name
      · subst first
        by_cases same : other = key
        · simp [insertInto, same]
        · have differs : (other == key) = false := by simpa using same
          simp [insertInto, List.lookup_cons, same, differs]
      · by_cases here : other = key
        · subst here
          simp [insertInto, first]
        · have differs : (other == key) = false := by simpa using here
          simp [insertInto, List.lookup_cons, first, differs, hypothesis]

/-- A name is bound to what was inserted for it last. -/
@[simp]
theorem get?_insert
    (globals : Globals)
    (name other : String)
    (stored : Stored) :
    (globals.insert name stored).get? other =
      if other = name then some stored else globals.get? other :=
  lookup_insertInto name other stored globals.bindings

/-- The number of variables. -/
def size (globals : Globals) : Nat :=
  globals.bindings.length

/-- The bytes that names and texts take outside the table. -/
def heapBytes (globals : Globals) : Nat :=
  globals.bindings.foldr
    (fun binding total =>
      binding.1.utf8ByteSize + binding.2.reserved + total)
    0

end Globals

end OwlScript
