import OwlScript.Token.Scan

namespace OwlScript

/-!
# Character classes of a scan

Blank characters, the beginnings of words, and digits are kept apart by tables
and not by a rule, so that no two of these classes share a character has to be
seen from the tables.  In ASCII all characters are looked at; beyond it, only
blank characters and letters have to be told apart.
-/

namespace Text

/-- A range that a search ends in holds the code point. -/
theorem Ranges.exists_of_searchBetween
    {ranges : Ranges}
    {code low high : Nat}
    (found : ranges.searchBetween code low high = true) :
    ∃ range ∈ ranges, range.1 ≤ code ∧ code ≤ range.2 := by
  fun_induction Ranges.searchBetween ranges code low high with
  | case1 =>
      cases found
  | case2 low high inside middle first last atMiddle below hypothesis =>
      exact hypothesis found
  | case3 low high inside middle first last atMiddle notBelow above
      hypothesis =>
      exact hypothesis found
  | case4 low high inside middle first last atMiddle notBelow notAbove =>
      exact ⟨(first, last), Array.mem_of_getElem? atMiddle,
        Nat.le_of_not_lt notBelow, Nat.le_of_not_lt notAbove⟩
  | case5 =>
      cases found

/-- All code points of some ranges. -/
def Ranges.codes (ranges : Ranges) : List Nat :=
  ranges.toList.flatMap fun range =>
    List.range' range.1 (range.2 + 1 - range.1)

/-- A character that a search finds in ranges has one of their codes. -/
theorem Ranges.mem_codes_of_contains
    {ranges : Ranges}
    {character : Char}
    (contained : ranges.contains character = true) :
    character.toNat ∈ ranges.codes := by
  obtain ⟨range, member, low, high⟩ :=
    Ranges.exists_of_searchBetween contained
  refine List.mem_flatMap.mpr ⟨range, Array.mem_toList_iff.mpr member, ?_⟩
  rw [List.mem_range'_1]
  omega

/-- No letter is blank. -/
theorem isAlphabetic_of_isBlank
    {character : Char}
    (blank : isBlank character = true) :
    isAlphabetic character = false := by
  by_cases ascii : character.toNat < 0x80
  · have apart :
        ∀ code < 0x80,
          isBlank (Char.ofNat code) = true →
            isAlphabetic (Char.ofNat code) = false := by
      decide +kernel
    have notLetter := apart character.toNat ascii
    rw [Char.ofNat_toNat] at notLetter
    exact notLetter blank
  · have apart :
        ∀ code ∈ blankRanges.codes,
          alphabeticRanges.searchBetween code 0 alphabeticRanges.size =
            false := by
      decide +kernel
    rw [isBlank, if_neg ascii] at blank
    rw [isAlphabetic, if_neg ascii]
    exact apart _ (Ranges.mem_codes_of_contains blank)

/-- Digits are below the codes beyond ASCII. -/
theorem lt_of_isDigit
    {character : Char}
    (isDigit : character.isDigit = true) :
    character.toNat < 0x80 := by
  rw [Char.isDigit, Bool.and_eq_true, decide_eq_true_eq, decide_eq_true_eq]
    at isDigit
  exact Nat.lt_of_le_of_lt isDigit.2 (by decide)

end Text

namespace Scan

/-- What begins a word is not blank, no digit, no slash and no quote. -/
theorem classes_of_beginsWord
    {character : Char}
    (begins : beginsWord character = true) :
    Text.isBlank character = false ∧ character.isDigit = false ∧
      character ≠ '/' ∧ character ≠ '"' := by
  refine ⟨?_, ?_, ?_, ?_⟩
  · rw [Bool.eq_false_iff]
    intro blank
    rw [beginsWord, Text.isAlphabetic_of_isBlank blank, Bool.false_or,
      beq_iff_eq] at begins
    rw [begins] at blank
    cases blank
  · rw [Bool.eq_false_iff]
    intro isDigit
    have apart :
        ∀ code < 0x80,
          beginsWord (Char.ofNat code) = true →
            (Char.ofNat code).isDigit = false := by
      decide +kernel
    have notDigit := apart character.toNat (Text.lt_of_isDigit isDigit)
    rw [Char.ofNat_toNat, isDigit] at notDigit
    cases notDigit begins
  · rintro rfl
    cases begins
  · rintro rfl
    cases begins

/-- A digit is not blank, begins no word, and is no slash and no quote. -/
theorem classes_of_isDigit
    {character : Char}
    (isDigit : character.isDigit = true) :
    Text.isBlank character = false ∧ beginsWord character = false ∧
      character ≠ '/' ∧ character ≠ '"' := by
  have apart :
      ∀ code < 0x80,
        (Char.ofNat code).isDigit = true →
          Text.isBlank (Char.ofNat code) = false ∧
            beginsWord (Char.ofNat code) = false ∧
              Char.ofNat code ≠ '/' ∧ Char.ofNat code ≠ '"' := by
    decide +kernel
  have others := apart character.toNat (Text.lt_of_isDigit isDigit)
  rw [Char.ofNat_toNat] at others
  exact others isDigit

end Scan

end OwlScript
