import OwlScript.Token.Scan

namespace OwlScript

/-!
# The progress of a scan

Every element takes at least the character that it begins with, and no element
changes the text.  So the rounds that a scan is given never run out, and what
it finds depends on the cursor alone.
-/

namespace Cursor

/-- The cursor stands further on than another one in the same text. -/
structure Beyond (after cursor : Cursor) : Prop where
  characters : after.characters = cursor.characters
  place : cursor.place < after.place

variable {cursor after : Cursor}

/-- Further on in the text, fewer characters are ahead. -/
theorem Beyond.length_ahead_lt
    (beyond : after.Beyond cursor) :
    after.ahead.length < cursor.ahead.length := by
  have total := congrArg List.length beyond.characters
  have further := beyond.place
  simp only [Cursor.characters, List.length_append, List.length_reverse]
    at total
  unfold Cursor.place at further
  omega

/-- A step from a character leads further on. -/
theorem beyond_advance
    {here : SourceCharacter}
    (stands : cursor.here? = some here) :
    cursor.advance.Beyond cursor := by
  refine ⟨characters_advance cursor, ?_⟩
  rcases cursor with ⟨lineCount, passed, _ | ⟨first, rest⟩⟩
  · cases stands
  · exact Nat.lt_succ_self passed.length

/-- A step never leads back. -/
theorem place_le_advance (cursor : Cursor) :
    cursor.place ≤ cursor.advance.place := by
  have further := place_advance cursor
  have bound := place_le_length cursor
  omega

/-- Moving on while a condition holds never leads back. -/
theorem place_le_advanceWhile
    (cursor : Cursor)
    (condition : SourceCharacter → Bool) :
    cursor.place ≤ (cursor.advanceWhile condition).place := by
  simp [place, advanceWhile]

/-- A step from further on stays further on. -/
theorem Beyond.advance
    (beyond : after.Beyond cursor) :
    after.advance.Beyond cursor where
  characters := (characters_advance after).trans beyond.characters
  place := Nat.lt_of_lt_of_le beyond.place (place_le_advance after)

/-- Moving on from further on stays further on. -/
theorem Beyond.advanceWhile
    (beyond : after.Beyond cursor)
    (condition : SourceCharacter → Bool) :
    (after.advanceWhile condition).Beyond cursor where
  characters :=
    (characters_advanceWhile after condition).trans beyond.characters
  place :=
    Nat.lt_of_lt_of_le beyond.place (place_le_advanceWhile after condition)

/-- A run that includes the current character goes beyond it. -/
theorem beyond_advanceWhile
    {here : SourceCharacter}
    {condition : SourceCharacter → Bool}
    (stands : cursor.here? = some here)
    (holds : condition here = true) :
    (cursor.advanceWhile condition).Beyond cursor := by
  refine ⟨characters_advanceWhile cursor condition, ?_⟩
  rcases cursor with ⟨lineCount, passed, _ | ⟨first, rest⟩⟩
  · cases stands
  · cases stands
    simp only [Cursor.advanceWhile, run, place, List.takeWhile_cons, holds,
      ↓reduceIte, List.reverse_cons, List.length_append]
    simp

/-- A current character on the line is a current character. -/
theorem exists_here?_of_hereOnLine?
    {line : Nat}
    {character : Char}
    (stands : cursor.hereOnLine? line = some character) :
    ∃ here, cursor.here? = some here := by
  unfold hereOnLine? at stands
  split at stands
  · next here current =>
      exact ⟨here, current⟩
  · cases stands

/-- What holds of a cursor if it holds of all further ones holds of all. -/
theorem induction_ahead
    {motive : Cursor → Prop}
    (step :
      ∀ cursor : Cursor,
        (∀ after : Cursor,
          after.ahead.length < cursor.ahead.length → motive after) →
        motive cursor)
    (cursor : Cursor) :
    motive cursor :=
  (measure fun cursor : Cursor => cursor.ahead.length).wf.induction cursor step

end Cursor

namespace Scan

/-- The cursor behind the element. -/
def Element.after : Element → Cursor
  | .skipped after => after
  | .token _ after => after

/-- The token of the element, if it is one. -/
def Element.token? : Element → Option Token
  | .skipped _ => none
  | .token found _ => some found

/-- What may come of scanning the element that begins with a character. -/
def IsElement
    (cursor : Cursor)
    (here : SourceCharacter) :
    Except Failure Element → Prop
  | .error failure => failure = unterminatedString here.position
  | .ok found =>
      found.after.Beyond cursor ∧
        ∀ token ∈ found.token?,
          token.kind ≠ .endOfInput ∧ token.position = here.position

section Elements

variable {cursor : Cursor}
variable {here : SourceCharacter}

/-- A token that ends further on and is not the end is an element. -/
theorem isElement_token
    {after : Cursor}
    (beyond : after.Beyond cursor)
    (kind : TokenKind)
    (notEnd : kind ≠ .endOfInput)
    (lexeme : String) :
    IsElement cursor here
      (.ok (.token ⟨kind, lexeme, here.position⟩ after)) := by
  refine ⟨beyond, ?_⟩
  intro token member
  cases member
  exact ⟨notEnd, rfl⟩

variable (stands : cursor.here? = some here)

include stands

/-- A sign is an element. -/
theorem isElement_sign
    {kind : TokenKind}
    (notEnd : kind ≠ .endOfInput) :
    IsElement cursor here (.ok (sign cursor here kind)) :=
  isElement_token (Cursor.beyond_advance stands) kind notEnd _

/-- A sign with or without an equal sign behind it is an element. -/
theorem isElement_signWithEqual
    {bare paired : TokenKind}
    (bareNotEnd : bare ≠ .endOfInput)
    (pairedNotEnd : paired ≠ .endOfInput) :
    IsElement cursor here (.ok (signWithEqual cursor here bare paired)) := by
  unfold signWithEqual
  dsimp only
  split
  · exact isElement_token (Cursor.beyond_advance stands).advance paired
      pairedNotEnd _
  · exact isElement_sign stands bareNotEnd

/-- Whatever begins nothing else is an element. -/
theorem isElement_otherSign :
    IsElement cursor here (.ok (otherSign cursor here)) := by
  unfold otherSign
  split
  all_goals
    first
    | exact isElement_sign stands nofun
    | exact isElement_signWithEqual stands nofun nofun

/-- A word is an element. -/
theorem isElement_word :
    IsElement cursor here (.ok (word cursor here)) := by
  apply isElement_token ((Cursor.beyond_advance stands).advanceWhile _)
  unfold wordKind
  split <;> exact nofun

/-- A slash, or the comment it begins, is an element. -/
theorem isElement_slash :
    IsElement cursor here (slash cursor here) := by
  unfold slash
  dsimp only
  rw [Cursor.retreat_advance stands]
  split
  · exact ⟨(Cursor.beyond_advance stands).advanceWhile _, nofun⟩
  · exact isElement_sign stands nofun

/-- A number is an element. -/
theorem isElement_number
    (isDigit : here.value.isDigit = true) :
    IsElement cursor here (number cursor here) := by
  have beyond :
      (cursor.takeOnLine here.position.line Char.isDigit).2.Beyond cursor :=
    Cursor.beyond_advanceWhile stands (by simp [isDigit])
  unfold number
  dsimp only
  split
  · next pointed =>
      obtain ⟨point, standsAtPoint⟩ :=
        Cursor.exists_here?_of_hereOnLine? pointed
      rw [Cursor.retreat_advance standsAtPoint]
      split
      · exact isElement_token beyond .integer nofun _
      · exact isElement_token (beyond.advance.advanceWhile _) .float nofun _
  · exact isElement_token beyond .integer nofun _

omit stands in
/-- The rest of a string only moves characters from ahead to passed. -/
theorem stringRest_moves
    {line : Nat}
    {decoded text : List Char}
    {passed ahead passedAfter aheadAfter : List SourceCharacter}
    (closed :
      stringRest line decoded passed ahead =
        some (text, passedAfter, aheadAfter)) :
    passedAfter.reverse ++ aheadAfter = passed.reverse ++ ahead ∧
      passed.length < passedAfter.length := by
  fun_induction stringRest line decoded passed ahead with
  | case1 =>
      cases closed
  | case2 =>
      cases closed
  | case3 decoded passed here rest onLine isQuote =>
      cases closed
      exact ⟨by simp, Nat.lt_succ_self _⟩
  | case4 =>
      cases closed
  | case5 =>
      cases closed
  | case6 decoded passed here onLine notQuote isBackslash escaped behind
      escapedOnLine hypothesis =>
      obtain ⟨same, further⟩ := hypothesis closed
      refine ⟨by simpa using same, ?_⟩
      simp only [List.length_cons] at further
      omega
  | case7 decoded passed here rest onLine notQuote notBackslash hypothesis =>
      obtain ⟨same, further⟩ := hypothesis closed
      refine ⟨by simpa using same, ?_⟩
      simp only [List.length_cons] at further
      omega

/-- A string is an element if it is scanned. -/
theorem isElement_string :
    IsElement cursor here (string cursor here) := by
  have beyond := Cursor.beyond_advance stands
  unfold string
  dsimp only
  split
  · next text passed ahead closed =>
      obtain ⟨same, longer⟩ := stringRest_moves closed
      have further :
          ({ cursor with passed := passed, ahead := ahead } : Cursor).Beyond
            cursor :=
        { characters := same.trans beyond.characters
          place := Nat.lt_trans beyond.place longer }
      exact isElement_token further .string nofun _
  · rfl

/-- What is scanned at a character is an element. -/
theorem isElement_element :
    IsElement cursor here (element cursor here) := by
  unfold element
  split
  · exact ⟨Cursor.beyond_advance stands, nofun⟩
  · split
    · exact isElement_slash stands
    · split
      · exact isElement_word stands
      · split
        · next isDigit =>
            exact isElement_number stands isDigit
        · split
          · exact isElement_string stands
          · exact isElement_otherSign stands

omit stands in
/-- A number never fails. -/
theorem exists_number_eq_ok (cursor : Cursor) (here : SourceCharacter) :
    ∃ found, number cursor here = .ok found := by
  unfold number
  dsimp only
  split
  · next pointed =>
      obtain ⟨point, standsAtPoint⟩ :=
        Cursor.exists_here?_of_hereOnLine? pointed
      rw [Cursor.retreat_advance standsAtPoint]
      split <;> exact ⟨_, rfl⟩
  · exact ⟨_, rfl⟩

/-- Nothing but a string fails, and a string begins with a quote. -/
theorem value_eq_quote_of_element_eq_error
    {failure : Failure}
    (failed : element cursor here = .error failure) :
    here.value = '"' := by
  unfold element at failed
  split at failed
  · cases failed
  · split at failed
    · unfold slash at failed
      dsimp only at failed
      rw [Cursor.retreat_advance stands] at failed
      split at failed <;> cases failed
    · split at failed
      · cases failed
      · split at failed
        · next isDigit =>
            obtain ⟨found, same⟩ := exists_number_eq_ok cursor here
            rw [same] at failed
            cases failed
        · split at failed
          · next isQuote =>
              exact isQuote
          · cases failed

end Elements

/-- What is scanned at a character ends further on. -/
theorem element_beyond
    {cursor : Cursor}
    {here : SourceCharacter}
    {found : Element}
    (stands : cursor.here? = some here)
    (scanned : element cursor here = .ok found) :
    found.after.Beyond cursor := by
  have isElement := isElement_element stands
  rw [scanned] at isElement
  exact isElement.1

/-- The tokens found before stand in front of those found later. -/
theorem tokensFrom_eq_map
    (rounds : List SourceCharacter)
    (cursor : Cursor)
    (found : List Token) :
    tokensFrom rounds cursor found =
      (tokensFrom rounds cursor []).map (found.reverse ++ ·) := by
  induction rounds generalizing cursor found with
  | nil =>
      simp [tokensFrom, Except.map]
  | cons round rounds hypothesis =>
      unfold tokensFrom
      cases cursor.here? with
      | none =>
          simp [Except.map]
      | some here =>
          dsimp only
          cases element cursor here with
          | error failure =>
              rfl
          | ok next =>
              cases next with
              | skipped after =>
                  exact hypothesis after found
              | token next after =>
                  dsimp only
                  rw [hypothesis after (next :: found),
                    hypothesis after [next]]
                  cases tokensFrom rounds after [] with
                  | error failure =>
                      rfl
                  | ok later =>
                      simp [Except.map]

/-- At the end there is the end token only. -/
theorem tokensFrom_of_ended
    {cursor : Cursor}
    (ended : cursor.here? = none)
    (rounds : List SourceCharacter) :
    tokensFrom rounds cursor [] = .ok [endToken cursor] := by
  cases rounds with
  | nil =>
      rfl
  | cons round rounds =>
      unfold tokensFrom
      rw [ended]
      rfl

/-- At a character its element comes in front of the rest. -/
theorem tokensFrom_of_stands
    {cursor : Cursor}
    {here : SourceCharacter}
    (stands : cursor.here? = some here)
    (round : SourceCharacter)
    (rounds : List SourceCharacter) :
    tokensFrom (round :: rounds) cursor [] =
      match element cursor here with
      | .error failure => .error failure
      | .ok (.skipped after) => tokensFrom rounds after []
      | .ok (.token next after) =>
          (tokensFrom rounds after []).map (next :: ·) := by
  rw [tokensFrom, stands]
  dsimp only
  cases element cursor here with
  | error failure =>
      rfl
  | ok next =>
      cases next with
      | skipped after =>
          rfl
      | token next after =>
          exact tokensFrom_eq_map rounds after [next]

/-- With enough rounds the number of rounds does not matter. -/
theorem tokensFrom_eq_tokensFrom
    (rounds others : List SourceCharacter)
    (cursor : Cursor)
    (enough : cursor.ahead.length ≤ rounds.length)
    (alsoEnough : cursor.ahead.length ≤ others.length) :
    tokensFrom rounds cursor [] = tokensFrom others cursor [] := by
  induction rounds generalizing others cursor with
  | nil =>
      have ended : cursor.here? = none := by
        simpa [Cursor.here?] using enough
      rw [tokensFrom_of_ended ended, tokensFrom_of_ended ended]
  | cons round rounds hypothesis =>
      cases stands : cursor.here? with
      | none =>
          rw [tokensFrom_of_ended stands, tokensFrom_of_ended stands]
      | some here =>
          cases others with
          | nil =>
              have ended : cursor.here? = none := by
                simpa [Cursor.here?] using alsoEnough
              rw [ended] at stands
              cases stands
          | cons other others =>
              rw [tokensFrom_of_stands stands, tokensFrom_of_stands stands]
              cases scanned : element cursor here with
              | error failure =>
                  rfl
              | ok next =>
                  have shorter :=
                    (element_beyond stands scanned).length_ahead_lt
                  simp only [List.length_cons] at enough alsoEnough
                  have same :
                      tokensFrom rounds next.after [] =
                        tokensFrom others next.after [] :=
                    hypothesis others next.after (by omega) (by omega)
                  cases next with
                  | skipped after =>
                      exact same
                  | token next after =>
                      exact congrArg (Except.map (next :: ·)) same

/-- A scan goes on from the cursor behind each element. -/
theorem tokens_eq (cursor : Cursor) :
    tokens cursor =
      match cursor.here? with
      | none => .ok [endToken cursor]
      | some here =>
          match element cursor here with
          | .error failure => .error failure
          | .ok (.skipped after) => tokens after
          | .ok (.token next after) => (tokens after).map (next :: ·) := by
  cases stands : cursor.here? with
  | none =>
      exact tokensFrom_of_ended stands cursor.ahead
  | some here =>
      obtain ⟨lineCount, passed, ahead⟩ := cursor
      cases ahead with
      | nil =>
          cases stands
      | cons first rest =>
          refine (tokensFrom_of_stands stands first rest).trans ?_
          dsimp only
          cases scanned : element ⟨lineCount, passed, first :: rest⟩ here with
          | error failure =>
              rfl
          | ok next =>
              have shorter := (element_beyond stands scanned).length_ahead_lt
              have same :
                  tokensFrom rest next.after [] =
                    tokensFrom next.after.ahead next.after [] :=
                tokensFrom_eq_tokensFrom _ _ _
                  (Nat.le_of_lt_succ shorter) (Nat.le_refl _)
              cases next with
              | skipped after =>
                  exact same
              | token next after =>
                  exact congrArg (Except.map (next :: ·)) same

/-- A scan at the end gives the end token only. -/
theorem tokens_of_ended
    {cursor : Cursor}
    (ended : cursor.here? = none) :
    tokens cursor = .ok [endToken cursor] :=
  tokensFrom_of_ended ended cursor.ahead

/--
A scan is followed from element to element: it has ended, it fails at a string
that does not end, or it goes on behind an element.
-/
theorem tokens_induction
    {motive : Cursor → Prop}
    (ended :
      ∀ cursor : Cursor,
        cursor.here? = none →
        tokens cursor = .ok [endToken cursor] →
        motive cursor)
    (failed :
      ∀ (cursor : Cursor) (here : SourceCharacter),
        cursor.here? = some here →
        element cursor here = .error (unterminatedString here.position) →
        tokens cursor = .error (unterminatedString here.position) →
        motive cursor)
    (skipped :
      ∀ (cursor : Cursor) (here : SourceCharacter) (after : Cursor),
        cursor.here? = some here →
        element cursor here = .ok (.skipped after) →
        after.Beyond cursor →
        tokens cursor = tokens after →
        motive after →
        motive cursor)
    (taken :
      ∀ (cursor : Cursor) (here : SourceCharacter) (token : Token)
        (after : Cursor),
        cursor.here? = some here →
        element cursor here = .ok (.token token after) →
        after.Beyond cursor →
        token.kind ≠ .endOfInput →
        tokens cursor = (tokens after).map (token :: ·) →
        motive after →
        motive cursor)
    (cursor : Cursor) :
    motive cursor := by
  induction cursor using Cursor.induction_ahead with
  | step cursor hypothesis =>
      have same := tokens_eq cursor
      cases stands : cursor.here? with
      | none =>
          exact ended cursor stands (tokens_of_ended stands)
      | some here =>
          have isElement := isElement_element stands
          rw [stands] at same
          cases found : element cursor here with
          | error failure =>
              rw [found] at isElement
              cases isElement
              simp only [found] at same
              exact failed cursor here stands found same
          | ok next =>
              rw [found] at isElement
              obtain ⟨beyond, isToken⟩ := isElement
              have later := hypothesis next.after beyond.length_ahead_lt
              cases next with
              | skipped after =>
                  simp only [found] at same
                  exact skipped cursor here after stands found beyond same
                    later
              | token token after =>
                  simp only [found] at same
                  exact taken cursor here token after stands found beyond
                    (isToken token rfl).1 same later

/-- The last character is the last of all. -/
theorem last?_eq_getLast? (cursor : Cursor) :
    cursor.last? = cursor.characters.getLast? := by
  simp [Cursor.last?, Cursor.characters, List.getLast?_append,
    List.getLast?_reverse]

/-- The end token depends on the whole text only. -/
theorem endToken_eq_of_characters
    {cursor other : Cursor}
    (same : cursor.characters = other.characters) :
    endToken cursor = endToken other := by
  unfold endToken Cursor.endPosition
  rw [last?_eq_getLast? cursor, last?_eq_getLast? other, same]

/-- The end token closes every scan, and stands nowhere else. -/
theorem exists_of_tokens_eq_ok
    (cursor : Cursor)
    {found : List Token}
    (scanned : tokens cursor = .ok found) :
    ∃ body, found = body ++ [endToken cursor] ∧
      ∀ token ∈ body, token.kind ≠ .endOfInput := by
  induction cursor using tokens_induction generalizing found with
  | ended cursor stands same =>
      rw [same] at scanned
      cases scanned
      exact ⟨[], rfl, nofun⟩
  | failed cursor here stands element same =>
      rw [same] at scanned
      cases scanned
  | skipped cursor here after stands element beyond same hypothesis =>
      rw [same] at scanned
      rw [← endToken_eq_of_characters beyond.characters]
      exact hypothesis scanned
  | taken cursor here token after stands element beyond notEnd same
      hypothesis =>
      rw [same] at scanned
      rw [← endToken_eq_of_characters beyond.characters]
      cases later : tokens after with
      | error failure =>
          rw [later] at scanned
          cases scanned
      | ok rest =>
          rw [later] at scanned
          cases scanned
          obtain ⟨body, rfl, noEnd⟩ := hypothesis later
          refine ⟨token :: body, rfl, ?_⟩
          rw [List.forall_mem_cons]
          exact ⟨notEnd, noEnd⟩

/--
A scan fails with nothing but a string that does not end, placed at the quote
that begins it.
-/
theorem exists_of_tokens_eq_error
    (cursor : Cursor)
    {failure : Failure}
    (failed : tokens cursor = .error failure) :
    ∃ character ∈ cursor.characters,
      character.value = '"' ∧
        failure = unterminatedString character.position := by
  induction cursor using tokens_induction with
  | ended cursor stands same =>
      rw [same] at failed
      cases failed
  | failed cursor here stands element same =>
      rw [same] at failed
      cases failed
      have member : here ∈ cursor.characters :=
        List.mem_append_right _ (List.mem_of_head? stands)
      exact ⟨here, member, value_eq_quote_of_element_eq_error stands element,
        rfl⟩
  | skipped cursor here after stands element beyond same hypothesis =>
      rw [same] at failed
      rw [← beyond.characters]
      exact hypothesis failed
  | taken cursor here token after stands element beyond notEnd same
      hypothesis =>
      rw [same] at failed
      rw [← beyond.characters]
      cases later : tokens after with
      | error fault =>
          rw [later] at failed
          cases failed
          exact hypothesis later
      | ok rest =>
          rw [later] at failed
          cases failed

end Scan

end OwlScript
