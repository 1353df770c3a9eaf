import OwlScript.Proofs.Token.ScannerSteps

namespace OwlScript

/-!
# Tokens of a scanner

For every kind of token the scanner takes the characters that the cursor takes,
in a loop that goes on from each character to the next.  The loops are given
more rounds than there are characters ahead, so the rounds do not run out.
-/

namespace Cursor

variable {cursor : Cursor}
variable {line : Nat}
variable {condition : Char → Bool}

/-- A step keeps the number of lines. -/
theorem advance_eq (cursor : Cursor) :
    cursor.advance =
      ⟨cursor.lineCount, cursor.advance.passed, cursor.advance.ahead⟩ := by
  rcases cursor with ⟨lineCount, passed, _ | ⟨here, rest⟩⟩
  · rfl
  · rfl

/-- A step leaves one character less ahead. -/
theorem length_ahead_advance (cursor : Cursor) :
    cursor.advance.ahead.length = cursor.ahead.length - 1 := by
  rcases cursor with ⟨lineCount, passed, _ | ⟨here, rest⟩⟩
  · rfl
  · rfl

/-- A cursor that stands on a line has something ahead. -/
theorem length_ahead_pos_of_hereOnLine?
    {character : Char}
    (isHere : cursor.hereOnLine? line = some character) :
    0 < cursor.ahead.length := by
  obtain ⟨here, stands⟩ := exists_here?_of_hereOnLine? isHere
  exact List.length_pos_iff.2 (List.ne_nil_of_mem (List.mem_of_head? stands))

/-- A character that satisfies the condition is taken, and others behind it. -/
theorem takeOnLine_of_kept
    {character : Char}
    (kept : (cursor.hereOnLine? line).filter condition = some character) :
    cursor.takeOnLine line condition =
      (character :: (cursor.advance.takeOnLine line condition).1,
        (cursor.advance.takeOnLine line condition).2) := by
  obtain ⟨isHere, holds⟩ := Option.filter_eq_some_iff.1 kept
  rcases cursor with ⟨lineCount, passed, _ | ⟨here, rest⟩⟩
  · cases isHere
  · unfold hereOnLine? at isHere
    dsimp only [here?, List.head?] at isHere
    split at isHere
    · next onLine =>
        cases isHere
        simp [takeOnLine, run, advanceWhile, advance, onLine, holds]
    · cases isHere

/-- Nothing is taken from a character that does not satisfy the condition. -/
theorem takeOnLine_of_not_kept
    (stops : (cursor.hereOnLine? line).filter condition = none) :
    cursor.takeOnLine line condition = ([], cursor) := by
  rcases cursor with ⟨lineCount, passed, _ | ⟨here, rest⟩⟩
  · rfl
  · unfold hereOnLine? at stops
    dsimp only [here?, List.head?] at stops
    by_cases onLine : here.position.line = line
    · rw [if_pos onLine] at stops
      have fails : condition here.value = false := by
        simpa using stops
      simp [takeOnLine, run, advanceWhile, fails]
    · simp [takeOnLine, run, advanceWhile, onLine]

/-- The current character counts if it is on the line. -/
theorem hereOnLine?_cons
    {lineCount : Nat}
    {passed rest : List SourceCharacter}
    (here : SourceCharacter)
    (line : Nat) :
    (Cursor.mk lineCount passed (here :: rest)).hereOnLine? line =
      if here.position.line = line then some here.value else none :=
  rfl

end Cursor

namespace Scans

/-- The step gives a value and leaves the scanner where a cursor is. -/
def Comes
    {α : Type}
    (lines : List Line)
    (step : Scans α)
    (scanner : Scanner)
    (value : α)
    (cursor : Cursor) : Prop :=
  ∃ after, step scanner = .ok value after ∧ after.Follows lines cursor

section Loops

variable {lines : List Line}
variable {scanner : Scanner}
variable {cursor : Cursor}
variable {here : SourceCharacter}
variable {rounds : Nat}

/-- Steps that come to something come to it one after the other. -/
theorem Comes.bind
    {α β : Type}
    {first : Scans α}
    {second : α → Scans β}
    {value : α}
    {result : β}
    {middle final : Cursor}
    (comes : Comes lines first scanner value middle)
    (goesOn :
      ∀ after : Scanner,
        after.Follows lines middle → Comes lines (second value) after result final) :
    Comes lines (first >>= second) scanner result final := by
  obtain ⟨after, firstStep, follows⟩ := comes
  obtain ⟨last, secondStep, alsoFollows⟩ := goesOn after follows
  refine ⟨last, ?_, alsoFollows⟩
  rw [bind_apply, firstStep]
  exact secondStep

/-- A value that is given back moves nothing. -/
theorem Comes.pure
    {α : Type}
    (follows : scanner.Follows lines cursor)
    (value : α) :
    Comes lines (Pure.pure value) scanner value cursor :=
  ⟨scanner, rfl, follows⟩

/-- What is looked up of the scanner itself leaves it as it is. -/
theorem Comes.get_bind
    {α : Type}
    {second : Scanner → Scans α}
    {value : α}
    {final : Cursor}
    (comes : Comes lines (second scanner) scanner value final) :
    Comes lines (get >>= second) scanner value final :=
  comes

/-- Moving on comes to the next character. -/
theorem comes_moveOn
    (follows : scanner.Follows lines cursor) :
    Comes lines moveOn scanner scanner.movedOn.buffer.current cursor.advance :=
  ⟨_, rfl, follows.movedOn⟩

/-- Moving on comes to the next character on the line. -/
theorem comes_moveOnLine
    (follows : scanner.Follows lines cursor)
    (line : Nat) :
    Comes lines (moveOnLine line) scanner (cursor.advance.hereOnLine? (line + 1))
      cursor.advance :=
  ⟨_, moveOnLine_apply follows line, follows.movedOn⟩

/-- A look at the next character that is taken back leaves all as it was. -/
theorem comes_lookBack
    {α : Type}
    {second : Option Char → Scans α}
    {value : α}
    (follows : scanner.Follows lines cursor)
    (isHere : cursor.here? = some here)
    (line : Nat)
    (takesBack :
      second (cursor.advance.hereOnLine? (line + 1)) =
        (do
          moveBack
          return value)) :
    Comes lines (moveOnLine line >>= second) scanner value cursor := by
  refine ⟨Scanner.ofBuffer scanner.buffer, ?_, follows.ofBuffer⟩
  rw [bind_apply, moveOnLine_apply follows line]
  dsimp only
  rw [takesBack, bind_apply, moveBack_movedOn follows isHere]
  rfl

/-- The rounds are enough for what is ahead behind the next character. -/
theorem enough_behind
    {line : Nat}
    {character : Char}
    (isHere : cursor.advance.hereOnLine? line = some character)
    (enough : cursor.ahead.length < rounds + 1) :
    cursor.advance.ahead.length < rounds := by
  have positive := Cursor.length_ahead_pos_of_hereOnLine? isHere
  have shorter := Cursor.length_ahead_advance cursor
  omega

/-- The characters of a word are those that the cursor takes. -/
theorem comes_wordFrom
    (follows : scanner.Follows lines cursor)
    (enough : cursor.ahead.length < rounds)
    (line : Nat)
    (found : List Char) :
    Comes lines (wordFrom line rounds found) scanner
      (found.reverse ++
        (cursor.advance.takeOnLine (line + 1) Scan.continuesWord).1)
      (cursor.advance.takeOnLine (line + 1) Scan.continuesWord).2 := by
  induction rounds generalizing scanner cursor found with
  | zero =>
      cases enough
  | succ rounds hypothesis =>
      refine (comes_moveOnLine follows line).bind fun after followsNext => ?_
      cases kept :
          (cursor.advance.hereOnLine? (line + 1)).filter
            Scan.continuesWord with
      | none =>
          rw [Cursor.takeOnLine_of_not_kept kept, List.append_nil]
          exact .pure followsNext _
      | some character =>
          have isHere := (Option.filter_eq_some_iff.1 kept).1
          have later :=
            hypothesis followsNext (enough_behind isHere enough)
              (character :: found)
          rw [Cursor.takeOnLine_of_kept kept]
          rw [List.reverse_cons, List.append_assoc] at later
          exact later

/-- Behind the point of a number, only digits are taken. -/
theorem comes_numberFrom_behindPoint
    (follows : scanner.Follows lines cursor)
    (enough : cursor.ahead.length < rounds)
    (line : Nat)
    (found : List Char) :
    Comes lines (numberFrom line rounds true found) scanner
      (true,
        found.reverse ++
          (cursor.advance.takeOnLine (line + 1) Char.isDigit).1)
      (cursor.advance.takeOnLine (line + 1) Char.isDigit).2 := by
  induction rounds generalizing scanner cursor found with
  | zero =>
      cases enough
  | succ rounds hypothesis =>
      refine (comes_moveOnLine follows line).bind fun after followsNext => ?_
      cases kept :
          (cursor.advance.hereOnLine? (line + 1)).filter Char.isDigit with
      | none =>
          have noPoint :
              ¬(cursor.advance.hereOnLine? (line + 1) = some '.' ∧
                true = false) :=
            nofun
          rw [Cursor.takeOnLine_of_not_kept kept, List.append_nil,
            if_neg noPoint]
          exact .pure followsNext _
      | some digit =>
          have isHere := (Option.filter_eq_some_iff.1 kept).1
          have later :=
            hypothesis followsNext (enough_behind isHere enough)
              (digit :: found)
          rw [Cursor.takeOnLine_of_kept kept]
          rw [List.reverse_cons, List.append_assoc] at later
          exact later

/-- The characters of a number, whether it has a point, and what is behind. -/
structure Numeral where
  hasPoint : Bool
  characters : List Char
  after : Cursor

namespace Numeral

/-- What belongs to a number where its first digits end. -/
def fraction (line : Nat) (cursor : Cursor) : Numeral :=
  if cursor.hereOnLine? line = some '.' then
    let (digits, after) := cursor.advance.takeOnLine line Char.isDigit
    if digits.isEmpty then
      ⟨false, [], cursor⟩
    else
      ⟨true, '.' :: digits, after⟩
  else
    ⟨false, [], cursor⟩

/-- The digits from the cursor on, and what belongs to the number there. -/
def digits (line : Nat) (cursor : Cursor) : Numeral :=
  let (first, behind) := cursor.takeOnLine line Char.isDigit
  let rest := fraction line behind
  ⟨rest.hasPoint, first ++ rest.characters, rest.after⟩

/-- The token of the number, at a position. -/
def token (numeral : Numeral) (position : Position) : Token :=
  ⟨if numeral.hasPoint then .float else .integer,
    String.ofList numeral.characters, position⟩

variable {line : Nat}
variable {cursor : Cursor}

/-- A digit that is kept is the first of the digits. -/
theorem digits_of_kept
    {digit : Char}
    (kept :
      (cursor.hereOnLine? line).filter Char.isDigit = some digit) :
    digits line cursor =
      ⟨(digits line cursor.advance).hasPoint,
        digit :: (digits line cursor.advance).characters,
        (digits line cursor.advance).after⟩ := by
  rw [digits, Cursor.takeOnLine_of_kept kept]
  rfl

/-- Where no digit stands the digits end, unless there is a fraction. -/
theorem digits_of_not_kept
    (stops : (cursor.hereOnLine? line).filter Char.isDigit = none) :
    digits line cursor = fraction line cursor := by
  rw [digits, Cursor.takeOnLine_of_not_kept stops]
  rfl

/-- Without a point there is no fraction. -/
theorem fraction_of_not_point
    (notPoint : cursor.hereOnLine? line ≠ some '.') :
    fraction line cursor = ⟨false, [], cursor⟩ :=
  if_neg notPoint

/-- A point without a digit behind it does not belong to the number. -/
theorem fraction_of_not_kept
    (stops :
      (cursor.advance.hereOnLine? line).filter Char.isDigit = none) :
    fraction line cursor = ⟨false, [], cursor⟩ := by
  unfold fraction
  rw [Cursor.takeOnLine_of_not_kept stops]
  exact ite_self _

/-- A point with a digit behind it does, with all further digits. -/
theorem fraction_of_kept
    {digit : Char}
    (isPoint : cursor.hereOnLine? line = some '.')
    (kept :
      (cursor.advance.hereOnLine? line).filter Char.isDigit = some digit) :
    fraction line cursor =
      ⟨true,
        '.' :: digit ::
          (cursor.advance.advance.takeOnLine line Char.isDigit).1,
        (cursor.advance.advance.takeOnLine line Char.isDigit).2⟩ := by
  unfold fraction
  rw [if_pos isPoint, Cursor.takeOnLine_of_kept kept]
  rfl

end Numeral

/-- A number is what the digits from the cursor on are. -/
theorem number_eq_digits (cursor : Cursor) (here : SourceCharacter) :
    Scan.number cursor here =
      .ok
        (.token
          ((Numeral.digits here.position.line cursor).token here.position)
          (Numeral.digits here.position.line cursor).after) := by
  unfold Scan.number Numeral.digits Numeral.fraction
  dsimp only
  split
  · next pointed =>
      obtain ⟨point, standsAtPoint⟩ :=
        Cursor.exists_here?_of_hereOnLine? pointed
      rw [Cursor.retreat_advance standsAtPoint]
      split
      · rw [List.append_nil]
        rfl
      · rfl
  · rw [List.append_nil]
    rfl

/--
Behind a point, the loop over a number takes a fraction.  If there is none, the
scanner goes back to the point.
-/
theorem comes_fraction
    {line : Nat}
    (follows : scanner.Follows lines cursor)
    (enough : cursor.ahead.length < rounds)
    (pointed : cursor.hereOnLine? (line + 1) = some '.')
    (found : List Char) :
    Comes lines
      (do
        match (← moveOnLine line).filter Char.isDigit with
        | some digit => numberFrom line rounds true (digit :: '.' :: found)
        | none =>
            moveBack
            return (false, found.reverse))
      scanner
      ((Numeral.fraction (line + 1) cursor).hasPoint,
        found.reverse ++ (Numeral.fraction (line + 1) cursor).characters)
      (Numeral.fraction (line + 1) cursor).after := by
  obtain ⟨point, isHere⟩ := Cursor.exists_here?_of_hereOnLine? pointed
  cases kept :
      (cursor.advance.hereOnLine? (line + 1)).filter Char.isDigit with
  | some digit =>
      refine (comes_moveOnLine follows line).bind fun after followsNext => ?_
      have enoughNext : cursor.advance.ahead.length < rounds := by
        rw [Cursor.length_ahead_advance]
        omega
      have taken :=
        comes_numberFrom_behindPoint followsNext enoughNext line
          (digit :: '.' :: found)
      rw [kept, Numeral.fraction_of_kept pointed kept]
      simpa using taken
  | none =>
      rw [Numeral.fraction_of_not_kept kept, List.append_nil]
      refine comes_lookBack follows isHere line ?_
      rw [kept]

/-- The loop over a number takes what the digits from the next one on are. -/
theorem comes_numberFrom
    (follows : scanner.Follows lines cursor)
    (enough : cursor.ahead.length < rounds)
    (line : Nat)
    (found : List Char) :
    Comes lines (numberFrom line rounds false found) scanner
      ((Numeral.digits (line + 1) cursor.advance).hasPoint,
        found.reverse ++
          (Numeral.digits (line + 1) cursor.advance).characters)
      (Numeral.digits (line + 1) cursor.advance).after := by
  induction rounds generalizing scanner cursor found with
  | zero =>
      cases enough
  | succ rounds hypothesis =>
      refine (comes_moveOnLine follows line).bind fun after followsNext => ?_
      cases kept :
          (cursor.advance.hereOnLine? (line + 1)).filter Char.isDigit with
      | some digit =>
          have isHere := (Option.filter_eq_some_iff.1 kept).1
          have later :=
            hypothesis followsNext (enough_behind isHere enough)
              (digit :: found)
          rw [Numeral.digits_of_kept kept]
          rw [List.reverse_cons, List.append_assoc] at later
          exact later
      | none =>
          rw [Numeral.digits_of_not_kept kept]
          dsimp only
          by_cases pointed : cursor.advance.hereOnLine? (line + 1) = some '.'
          · rw [if_pos ⟨pointed, rfl⟩]
            exact comes_fraction followsNext (enough_behind pointed enough)
              pointed found
          · rw [if_neg fun both => pointed both.1,
              Numeral.fraction_of_not_point pointed, List.append_nil]
            exact .pure followsNext _

/--
The loop over a string does what the rest of a string says: it gives the text
and stops behind the closing quote, or it gives nothing.
-/
def TakesRest
    (lines : List Line)
    (step : Scans (Option (List Char)))
    (scanner : Scanner)
    (lineCount : Nat) :
    Option (List Char × List SourceCharacter × List SourceCharacter) → Prop
  | some (text, passed, ahead) =>
      Comes lines step scanner (some text) ⟨lineCount, passed, ahead⟩
  | none => ∃ after, step scanner = .ok none after

/-- What a scan comes to may be taken into account in the rest of a string. -/
theorem Comes.takesRest
    {α : Type}
    {first : Scans α}
    {second : α → Scans (Option (List Char))}
    {value : α}
    {middle : Cursor}
    {lineCount : Nat}
    {rest : Option (List Char × List SourceCharacter × List SourceCharacter)}
    (comes : Comes lines first scanner value middle)
    (goesOn :
      ∀ after : Scanner,
        after.Follows lines middle →
          TakesRest lines (second value) after lineCount rest) :
    TakesRest lines (first >>= second) scanner lineCount rest := by
  obtain ⟨after, firstStep, follows⟩ := comes
  have later := goesOn after follows
  rcases rest with _ | ⟨text, passed, ahead⟩
  · obtain ⟨last, secondStep⟩ := later
    refine ⟨last, ?_⟩
    rw [bind_apply, firstStep]
    exact secondStep
  · obtain ⟨last, secondStep, alsoFollows⟩ := later
    refine ⟨last, ?_, alsoFollows⟩
    rw [bind_apply, firstStep]
    exact secondStep

/-- What comes of the first character if it is on the line, or else nothing. -/
def ifNext
    {β : Type}
    (line : Nat)
    (behind : SourceCharacter → List SourceCharacter → Option β) :
    List SourceCharacter → Option β
  | [] => none
  | here :: rest =>
      if here.position.line = line then behind here rest else none

/-- The rest of a string looks at the next character, or at the next two. -/
theorem stringRest_eq_ifNext
    (line : Nat)
    (decoded : List Char)
    (passed ahead : List SourceCharacter) :
    Scan.stringRest line decoded passed ahead =
      ifNext line
        (fun here rest =>
          if here.value = '"' then
            some (decoded.reverse, here :: passed, rest)
          else if here.value = '\\' then
            ifNext line
              (fun escaped behind =>
                Scan.stringRest line (Scan.unescape escaped.value :: decoded)
                  (escaped :: here :: passed) behind)
              rest
          else
            Scan.stringRest line (here.value :: decoded) (here :: passed) rest)
        ahead := by
  rw [Scan.stringRest.eq_def]
  cases ahead with
  | nil =>
      rfl
  | cons here rest =>
      cases rest <;> simp only [ifNext, ite_not, ne_eq]

/-- The scanner looks at the next character as the rest of a string does. -/
theorem takesRest_ifNext
    {lineCount line : Nat}
    {passed ahead : List SourceCharacter}
    {second : Option Char → Scans (Option (List Char))}
    {behind :
      SourceCharacter → List SourceCharacter →
        Option (List Char × List SourceCharacter × List SourceCharacter)}
    (follows : scanner.Follows lines cursor)
    (inside : cursor.advance = ⟨lineCount, passed, ahead⟩)
    (stops : second none = pure none)
    (goesOn :
      ∀ (here : SourceCharacter) (rest : List SourceCharacter)
        (after : Scanner),
        ahead = here :: rest →
          after.Follows lines ⟨lineCount, passed, here :: rest⟩ →
            TakesRest lines (second (some here.value)) after lineCount
              (behind here rest)) :
    TakesRest lines (moveOnLine line >>= second) scanner lineCount
      (ifNext (line + 1) behind ahead) := by
  refine (comes_moveOnLine follows line).takesRest fun after followsNext => ?_
  rw [inside] at followsNext ⊢
  cases ahead with
  | nil =>
      have nothing :
          (Cursor.mk lineCount passed []).hereOnLine? (line + 1) = none :=
        rfl
      rw [nothing, stops]
      exact ⟨after, rfl⟩
  | cons here rest =>
      rw [Cursor.hereOnLine?_cons, ifNext]
      split
      · exact goesOn here rest after rfl followsNext
      · rw [stops]
        exact ⟨after, rfl⟩

/-- The loop over a string takes the rest of the string. -/
theorem takesRest_stringFrom
    {lineCount : Nat}
    {passed ahead : List SourceCharacter}
    (follows : scanner.Follows lines cursor)
    (inside : cursor.advance = ⟨lineCount, passed, ahead⟩)
    (enough : ahead.length < rounds)
    (line : Nat)
    (decoded : List Char) :
    TakesRest lines (stringFrom line rounds decoded) scanner lineCount
      (Scan.stringRest (line + 1) decoded passed ahead) := by
  induction rounds generalizing scanner cursor decoded passed ahead with
  | zero =>
      cases enough
  | succ rounds hypothesis =>
      rw [stringRest_eq_ifNext]
      refine takesRest_ifNext follows inside rfl
        fun here rest after isAhead followsNext => ?_
      rw [isAhead, List.length_cons] at enough
      dsimp only
      split
      · exact (comes_moveOn followsNext).bind fun last followsLast =>
          .pure followsLast _
      · split
        · refine takesRest_ifNext followsNext rfl rfl
            fun escaped behind last isBehind followsLast => ?_
          rw [isBehind, List.length_cons] at enough
          exact hypothesis followsLast rfl (by omega) _
        · exact hypothesis followsNext rfl (by omega) _

end Loops

/-! ### Whole tokens -/

/--
The step does what the element is: it takes the token, or it stops with the
failure.
-/
def TakesElement
    (lines : List Line)
    (step : Scans Token)
    (scanner : Scanner) :
    Except Failure Scan.Element → Prop
  | .ok (.token found after) => Comes lines step scanner found after
  | .ok (.skipped _) => False
  | .error failure => ∃ after, step scanner = .error (.reported failure) after

/-- Steps that do the same take the same element. -/
theorem TakesElement.of_eq
    {lines : List Line}
    {step other : Scans Token}
    {scanner : Scanner}
    {result : Except Failure Scan.Element}
    (takes : TakesElement lines other scanner result)
    (same : step scanner = other scanner) :
    TakesElement lines step scanner result := by
  unfold TakesElement Comes at *
  rwa [same]

section Tokens

variable {lines : List Line}
variable {scanner : Scanner}
variable {cursor : Cursor}
variable {here : SourceCharacter}
variable {line : Nat}

variable (follows : scanner.Follows lines cursor)
variable (isHere : cursor.here? = some here)

include follows isHere

/-- A single sign is taken as the sign of its kind. -/
theorem takesElement_single (kind : TokenKind) :
    TakesElement lines (single kind here.position) scanner
      (.ok (Scan.sign cursor here kind)) := by
  refine ⟨scanner.movedOn, ?_, follows.movedOn⟩
  rw [← follows.current_eq isHere]
  rfl

/-- A sign is taken together with the equal sign behind it, if there is one. -/
theorem takesElement_withEqual
    (onLine : line + 1 = here.position.line)
    (bare paired : TokenKind) :
    TakesElement lines (withEqual bare paired here.position line) scanner
      (.ok (Scan.signWithEqual cursor here bare paired)) := by
  have current : Comes lines current scanner here.value cursor :=
    ⟨scanner, congrArg (EStateM.Result.ok · scanner)
      (follows.current_eq isHere), follows⟩
  unfold Scan.signWithEqual
  dsimp only
  split
  · next isEqual =>
      refine current.bind fun after followsHere => ?_
      refine (comes_moveOnLine followsHere line).bind
        fun behind followsNext => ?_
      rw [onLine, if_pos isEqual]
      exact (comes_moveOn followsNext).bind fun last followsLast =>
        .pure followsLast _
  · next notEqual =>
      refine current.bind fun after followsHere => ?_
      refine (comes_moveOnLine followsHere line).bind
        fun behind followsNext => ?_
      rw [onLine, if_neg notEqual]
      exact .pure followsNext _

/-- Every sign but a slash is taken as its sign. -/
theorem takesElement_sign
    (onLine : line + 1 = here.position.line)
    (notSlash : here.value ≠ '/') :
    TakesElement lines (sign here.position line here.value) scanner
      (.ok (Scan.otherSign cursor here)) := by
  unfold sign
  split
  case h_10 isSlash =>
    exact absurd isSlash notSlash
  case h_16 =>
    -- No sign of its own, so the cursor finds none either.
    unfold Scan.otherSign
    split
    all_goals
      first
      | exact takesElement_single follows isHere .unknown
      | contradiction
  all_goals
    next isSign =>
      unfold Scan.otherSign
      rw [isSign]
      first
      | exact takesElement_single follows isHere _
      | exact takesElement_withEqual follows isHere onLine _ _

/-- A word is taken as that word. -/
theorem takesElement_word (onLine : line + 1 = here.position.line) :
    TakesElement lines (word here.position line) scanner
      (.ok (Scan.word cursor here)) := by
  have taken :=
    comes_wordFrom follows follows.length_ahead_lt_rounds line [here.value]
  rw [onLine] at taken
  refine Comes.get_bind ?_
  rw [follows.current_eq isHere]
  exact taken.bind fun after followsAfter => .pure followsAfter _

/-- A number is taken as that number. -/
theorem takesElement_number
    (onLine : line + 1 = here.position.line)
    (isDigit : here.value.isDigit = true) :
    TakesElement lines (number here.position line) scanner
      (Scan.number cursor here) := by
  have kept :
      (cursor.hereOnLine? here.position.line).filter Char.isDigit =
        some here.value := by
    rw [Cursor.hereOnLine?, isHere]
    simp [isDigit]
  have taken :=
    comes_numberFrom follows follows.length_ahead_lt_rounds line [here.value]
  rw [onLine] at taken
  rw [number_eq_digits, Numeral.digits_of_kept kept]
  refine Comes.get_bind ?_
  rw [follows.current_eq isHere]
  exact taken.bind fun after followsAfter => .pure followsAfter _

omit isHere in
/-- A string is taken as that string, or refused. -/
theorem takesElement_string (onLine : line + 1 = here.position.line) :
    TakesElement lines (string here.position line) scanner
      (Scan.string cursor here) := by
  have enough : cursor.advance.ahead.length < scanner.rounds := by
    have positive := follows.length_ahead_lt_rounds
    rw [Cursor.length_ahead_advance]
    omega
  have taken :=
    takesRest_stringFrom follows cursor.advance_eq enough line []
  rw [onLine] at taken
  unfold Scan.string
  dsimp only
  split
  · next text passed ahead closed =>
      rw [closed] at taken
      exact Comes.get_bind
        (taken.bind fun after followsAfter => .pure followsAfter _)
  · next unclosed =>
      rw [unclosed] at taken
      obtain ⟨after, stopped⟩ := taken
      refine ⟨after, ?_⟩
      rw [string, get_bind_apply, bind_apply, stopped]
      rfl

omit follows in
/-- A slash that begins no comment is a sign; the cursor goes back to it. -/
theorem slash_eq_sign
    (noComment :
      cursor.advance.hereOnLine? here.position.line ≠ some '/') :
    Scan.slash cursor here = .ok (Scan.sign cursor here .slash) := by
  unfold Scan.slash
  dsimp only
  rw [if_neg noComment, Cursor.retreat_advance isHere]
  rfl

/--
The token that begins with a character is the element that begins with it, if
the character is not blank and begins no comment.
-/
theorem takesElement_tokenAt
    (notBlank : Text.isBlank here.value = false)
    (noComment :
      here.value = '/' →
        cursor.advance.hereOnLine? here.position.line ≠ some '/') :
    TakesElement lines (tokenAt here.position) scanner
      (Scan.element cursor here) := by
  have onLine := follows.lineNumber_succ isHere
  have firstStep :
      tokenAt here.position scanner =
        (if Scan.beginsWord here.value then
          word here.position scanner.buffer.lineNumber
        else if here.value.isDigit then
          number here.position scanner.buffer.lineNumber
        else if here.value = '"' then
          string here.position scanner.buffer.lineNumber
        else
          sign here.position scanner.buffer.lineNumber here.value) scanner := by
    rw [← follows.current_eq isHere]
    rfl
  refine TakesElement.of_eq ?_ firstStep
  unfold Scan.element
  rw [notBlank, if_neg Bool.false_ne_true]
  by_cases isSlash : here.value = '/'
  · have noWord : Scan.beginsWord here.value = false := by
      rw [isSlash]
      decide +kernel
    rw [if_pos isSlash, slash_eq_sign isHere (noComment isSlash), noWord,
      if_neg Bool.false_ne_true, isSlash]
    exact takesElement_single follows isHere .slash
  · rw [if_neg isSlash]
    split
    · exact takesElement_word follows isHere onLine
    · split
      · next isDigit =>
          exact takesElement_number follows isHere onLine isDigit
      · split
        · exact takesElement_string follows onLine
        · exact takesElement_sign follows isHere onLine isSlash

end Tokens

end Scans

end OwlScript
