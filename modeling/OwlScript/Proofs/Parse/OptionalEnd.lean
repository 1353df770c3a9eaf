import OwlScript.Proofs.Parse.DescentPrograms
import OwlScript.Proofs.Parse.JoinedPrograms
import OwlScript.Proofs.Parse.Provenance

namespace OwlScript

/-!
# The end token is a full stop that may be missing

A descent by index comes to what the parser comes to on any slice.  Since the
parser need not be shown what stands behind the first end token, that changes
nothing.  Without an end token there is a program exactly if there is one with
it.
-/

variable {front behind : List Token}
variable {ending : Token}

namespace Descent

/-- At the start of a slice, the parser is shown the whole slice. -/
theorem shows_ofSlice (slice : List Token) :
    (ofSlice slice).Shows [] (ParseState.ofTokens slice) :=
  shows_shown (Nat.zero_le _)

/-- Tokens behind an end token need not be shown. -/
theorem shows_ofSlice_upTo
    (isEnd : ending.kind = .endOfInput)
    (front behind : List Token) :
    (ofSlice (front ++ ending :: behind)).Shows behind
      (ParseState.ofTokens (front ++ [ending])) where
  ahead := List.append_cons front ending behind
  ending := .inr ⟨ending, List.mem_append_right _ List.mem_cons_self, isEnd⟩
  inSlice := Nat.zero_le _
  events := rfl

/-- A descent on a slice comes to what the tokens shown are parsed as. -/
theorem start_of_shows
    {slice tokens : List Token}
    (shows : (ofSlice slice).Shows behind (ParseState.ofTokens tokens)) :
    start slice = .ok (Program.parse tokens) := by
  have track :
      (NestedParsers.within nestingLimit).Track behind
        (nestingLimit - nestingLimit)
        (Descents.within (nestingLimit + 1)) :=
    .within (Nat.le_refl nestingLimit)
  rw [Nat.sub_self] at track
  have follows :=
    track.statements (NestedParsers.within_sound nestingLimit) none shows rfl
  unfold start Program.parse
  dsimp only
  generalize
    Parse.statements (NestedParsers.within nestingLimit) none
      (ParseState.ofTokens tokens) = result at follows
  generalize
    Descend.statements (Descents.within (nestingLimit + 1)) none
      (ofSlice slice) = other at follows
  cases follows with
  | ok same showsAfter keeps =>
      cases same
      dsimp only
      rw [showsAfter.events]
  | error events keeps =>
      dsimp only
      rw [events]

end Descent

namespace Program

/-- What stands behind the first end token is not looked at. -/
theorem parse_append_end
    (isEnd : ending.kind = .endOfInput)
    (front behind : List Token) :
    parse (front ++ ending :: behind) = parse (front ++ [ending]) := by
  have all :=
    Descent.start_of_shows
      (Descent.shows_ofSlice (front ++ ending :: behind))
  have shown :=
    Descent.start_of_shows (Descent.shows_ofSlice_upTo isEnd front behind)
  exact Except.ok.inj (all.symm.trans shown)

/-- A program needs no end token behind it. -/
theorem ofTokens_eq_ok_iff_append_end
    (noEnd : ∀ token ∈ front, token.kind ≠ .endOfInput)
    (isEnd : ending.kind = .endOfInput)
    (program : Program) :
    ofTokens front = .ok program ↔
      ofTokens (front ++ [ending]) = .ok program := by
  have noneCloses : Grammar.Closes none [] := nofun
  have without := ofTokens_append_eq_ok_iff noEnd noneCloses program
  rw [List.append_nil] at without
  rw [without, ofTokens_eq_ok_iff noEnd isEnd]

/--
On any slice the descent by index comes to the program that is parsed, or to a
fault of the parser, and to no failure of its own.  Behind the first end token
anything may stand, and the end token may be missing where there is a program.
-/
theorem start_eq_ok_and_end_optional
    (slice : List Token)
    (noEnd : ∀ token ∈ front, token.kind ≠ .endOfInput)
    (isEnd : ending.kind = .endOfInput)
    (behind : List Token) :
    Descent.start slice = .ok (parse slice) ∧
      (∀ fault, (parse slice).outcome = .error fault →
        fault.stage = .parser) ∧
      parse (front ++ ending :: behind) = parse (front ++ [ending]) ∧
      ∀ program, ofTokens front = .ok program ↔
        ofTokens (front ++ [ending]) = .ok program :=
  ⟨Descent.start_of_shows (Descent.shows_ofSlice slice),
    fun _ refused => (isSyntaxFault_of_ofTokens refused).isOfParser,
    parse_append_end isEnd front behind,
    ofTokens_eq_ok_iff_append_end noEnd isEnd⟩

/-- The tokens of a statement that prints one. -/
def printOne : List Token :=
  [⟨.keyword .printWord, "print", ⟨1, 1⟩⟩, ⟨.integer, "1", ⟨1, 7⟩⟩]

/-- The end token behind the statement. -/
def printOneEnd : Token :=
  ⟨.endOfInput, "", ⟨1, 8⟩⟩

/-- No statement begins with this token. -/
def strayClosing : Token :=
  ⟨.rightParenthesis, ")", ⟨2, 1⟩⟩

/--
A `print` statement is read alike with no end token, and with a stray token
behind one; a stray token alone is refused alike.
-/
theorem printOne_parsed_upTo_end :
    (∀ token ∈ printOne, token.kind ≠ .endOfInput) ∧
      printOneEnd.kind = .endOfInput ∧
      Descent.start [strayClosing] = .ok (parse [strayClosing]) ∧
      parse (printOne ++ [printOneEnd, strayClosing]) =
        parse (printOne ++ [printOneEnd]) ∧
      ofTokens printOne =
        .ok ⟨[.print ⟨1, 1⟩ [.literal ⟨1, 7⟩ (.int 1)]]⟩ := by
  have noEnd : ∀ token ∈ printOne, token.kind ≠ .endOfInput := by decide
  obtain ⟨started, -, same, without⟩ :=
    @start_eq_ok_and_end_optional printOne printOneEnd [strayClosing] noEnd
      rfl [strayClosing]
  exact ⟨noEnd, rfl, started, same, (without _).2 rfl⟩

end Program

end OwlScript
