import OwlScript.Proofs.Token.Progress

namespace OwlScript

/-!
# A line among other lines

A line scanned by itself and the same line among others differ in the number
of the line and in what stands in front of it and behind it.  An element that
begins on the line is the same either way, because every step of the scanner
that could leave the line looks at the number of the line first.
-/

/-- The token on another line. -/
def Token.onLine (line : Nat) (token : Token) : Token :=
  { token with position := ⟨line, token.position.column⟩ }

/-- The character on another line. -/
def SourceCharacter.onLine
    (line : Nat)
    (character : SourceCharacter) :
    SourceCharacter :=
  { character with position := ⟨line, character.position.column⟩ }

/-- The failure with its place, if it has one, on another line. -/
def Failure.onLine (line : Nat) : Failure → Failure
  | .diagnostic report =>
      .diagnostic
        { report with
          position := report.position.map fun place => ⟨line, place.column⟩ }
  | failure => failure

namespace Scan

/-- The tokens of a text without the end token, on the line of a file. -/
def tokensOnLine (number : Nat) (found : List Token) : List Token :=
  (found.filter fun token => token.kind != .endOfInput).map (·.onLine number)

/-- What comes of a line that is scanned first and of what is behind it. -/
def joined
    (number : Nat)
    (first behind : Except Failure (List Token)) :
    Except Failure (List Token) :=
  match first with
  | .error failure => .error (failure.onLine number)
  | .ok found => behind.map (tokensOnLine number found ++ ·)

/-- An end token gives way to what is behind it. -/
theorem joined_end
    (number : Nat)
    (position : Position)
    (behind : Except Failure (List Token)) :
    joined number (.ok [⟨.endOfInput, "", position⟩]) behind = behind := by
  cases behind <;> rfl

/-- Tokens of two parts can be joined if both parts have been scanned. -/
theorem exists_joined_eq_ok_iff
    (number : Nat)
    (first behind : Except Failure (List Token)) :
    (∃ found, joined number first behind = .ok found) ↔
      (∃ found, first = .ok found) ∧ ∃ found, behind = .ok found := by
  cases first with
  | error failure =>
      exact ⟨nofun, nofun⟩
  | ok found =>
      cases behind with
      | error failure =>
          exact ⟨nofun, nofun⟩
      | ok later =>
          exact ⟨fun _ => ⟨⟨found, rfl⟩, later, rfl⟩,
            fun _ => ⟨tokensOnLine number found ++ later, rfl⟩⟩

/-- A token that is not the end is moved to its line. -/
theorem tokensOnLine_cons
    {token : Token}
    (notEnd : token.kind ≠ .endOfInput)
    (number : Nat)
    (rest : List Token) :
    tokensOnLine number (token :: rest) =
      token.onLine number :: tokensOnLine number rest := by
  have kept : (token.kind != .endOfInput) = true := by
    simpa using notEnd
  unfold tokensOnLine
  rw [List.filter_cons, if_pos kept, List.map_cons]

/-- A token in front of a part is moved to its line and stays in front. -/
theorem joined_map_cons
    {token : Token}
    (notEnd : token.kind ≠ .endOfInput)
    (number : Nat)
    (first behind : Except Failure (List Token)) :
    joined number (first.map (token :: ·)) behind =
      (joined number first behind).map (token.onLine number :: ·) := by
  cases first with
  | error failure =>
      rfl
  | ok found =>
      cases behind with
      | error failure =>
          rfl
      | ok later =>
          exact congrArg (fun tokens => Except.ok (tokens ++ later))
            (tokensOnLine_cons notEnd number found)

end Scan

namespace Cursor

/-- All characters of the text stand on the line. -/
def IsOnLine (cursor : Cursor) (line : Nat) : Prop :=
  ∀ character ∈ cursor.characters, character.position.line = line

/-- The characters ahead are on the line. -/
theorem IsOnLine.of_ahead
    {cursor : Cursor}
    {line : Nat}
    (isOnLine : cursor.IsOnLine line)
    {character : SourceCharacter}
    (member : character ∈ cursor.ahead) :
    character.position.line = line :=
  isOnLine character (List.mem_append_right _ member)

/-- The current character is on the line. -/
theorem IsOnLine.of_here?
    {cursor : Cursor}
    {line : Nat}
    (isOnLine : cursor.IsOnLine line)
    {here : SourceCharacter}
    (stands : cursor.here? = some here) :
    here.position.line = line :=
  isOnLine.of_ahead (List.mem_of_head? stands)

/-- Being on a line depends on the characters only. -/
theorem IsOnLine.of_characters
    {cursor other : Cursor}
    {line : Nat}
    (isOnLine : cursor.IsOnLine line)
    (same : other.characters = cursor.characters) :
    other.IsOnLine line := by
  unfold IsOnLine
  rw [same]
  exact isOnLine

/-- A step does not leave the line. -/
theorem IsOnLine.advance
    {cursor : Cursor}
    {line : Nat}
    (isOnLine : cursor.IsOnLine line) :
    cursor.advance.IsOnLine line :=
  isOnLine.of_characters (characters_advance cursor)

end Cursor

/--
What is around a line: the characters in front of it, nearest first, and the
characters behind it, none of which stands on the line itself.
-/
structure Surroundings where
  lineCount : Nat
  line : Nat
  before : List SourceCharacter
  behind : List SourceCharacter
  apart : ∀ character ∈ behind, character.position.line ≠ line

namespace Surroundings

variable (around : Surroundings)

/-- The cursor among the surroundings. -/
def cursor (inner : Cursor) : Cursor where
  lineCount := around.lineCount
  passed := inner.passed.map (·.onLine around.line) ++ around.before
  ahead := inner.ahead.map (·.onLine around.line) ++ around.behind

/-- The element among the surroundings. -/
def element : Scan.Element → Scan.Element
  | .skipped after => .skipped (around.cursor after)
  | .token found after =>
      .token (found.onLine around.line) (around.cursor after)

/-- What comes of scanning an element, among the surroundings. -/
def outcome :
    Except Failure Scan.Element → Except Failure Scan.Element
  | .error failure => .error (failure.onLine around.line)
  | .ok found => .ok (around.element found)

/-- With other lines around it the current character has its own line number. -/
theorem cursor_here?
    {inner : Cursor}
    {here : SourceCharacter}
    (stands : inner.here? = some here) :
    (around.cursor inner).here? = some (here.onLine around.line) := by
  rcases inner with ⟨lineCount, passed, _ | ⟨first, rest⟩⟩
  · cases stands
  · cases stands
    rfl

/-- A step is a step among the other lines. -/
theorem cursor_advance
    {inner : Cursor}
    {here : SourceCharacter}
    (stands : inner.here? = some here) :
    (around.cursor inner).advance = around.cursor inner.advance := by
  rcases inner with ⟨lineCount, passed, _ | ⟨first, rest⟩⟩
  · cases stands
  · rfl

/-- The characters behind the line are not looked at on the line. -/
theorem cursor_hereOnLine?
    {inner : Cursor}
    {line : Nat}
    (isOnLine : inner.IsOnLine line) :
    (around.cursor inner).hereOnLine? around.line =
      inner.hereOnLine? line := by
  cases stands : inner.here? with
  | some here =>
      have onLine := isOnLine.of_here? stands
      simp [Cursor.hereOnLine?, around.cursor_here? stands, stands, onLine,
        SourceCharacter.onLine]
  | none =>
      have nothing : inner.hereOnLine? line = none := by
        simp [Cursor.hereOnLine?, stands]
      have ended : inner.ahead = [] := by
        simpa [Cursor.here?] using stands
      rw [nothing]
      unfold Cursor.hereOnLine? Cursor.here? cursor
      rw [ended]
      cases first : around.behind.head? with
      | none =>
          simp [first]
      | some here =>
          have apart := around.apart here (List.mem_of_head? first)
          simp [first, apart]

/-- A run of characters does not reach what stands behind the line. -/
theorem takeWhile_dropWhile_onLine
    {outside inside : SourceCharacter → Bool}
    (stops : ∀ character ∈ around.behind, outside character = false)
    (ahead : List SourceCharacter)
    (same :
      ∀ character ∈ ahead,
        outside (character.onLine around.line) = inside character) :
    (ahead.map (·.onLine around.line) ++ around.behind).takeWhile outside =
        (ahead.takeWhile inside).map (·.onLine around.line) ∧
      (ahead.map (·.onLine around.line) ++ around.behind).dropWhile outside =
        (ahead.dropWhile inside).map (·.onLine around.line) ++
          around.behind := by
  induction ahead with
  | nil =>
      cases behind : around.behind with
      | nil =>
          exact ⟨rfl, rfl⟩
      | cons first rest =>
          have stopsAtFirst : outside first = false :=
            stops first (by simp [behind])
          simp [stopsAtFirst]
  | cons first rest hypothesis =>
      rw [List.forall_mem_cons] at same
      obtain ⟨taken, dropped⟩ := hypothesis same.2
      simp only [List.map_cons, List.cons_append, List.takeWhile_cons,
        List.dropWhile_cons, same.1]
      cases inside first with
      | false =>
          exact ⟨rfl, rfl⟩
      | true =>
          exact ⟨by simpa using taken, by simpa using dropped⟩

/-- A run on the line ends where it ends on the line by itself. -/
theorem cursor_advanceWhile
    {inner : Cursor}
    {outside inside : SourceCharacter → Bool}
    (same :
      ∀ character ∈ inner.ahead,
        outside (character.onLine around.line) = inside character)
    (stops : ∀ character ∈ around.behind, outside character = false) :
    (around.cursor inner).run outside =
        (inner.run inside).map (·.onLine around.line) ∧
      (around.cursor inner).advanceWhile outside =
        around.cursor (inner.advanceWhile inside) := by
  obtain ⟨taken, dropped⟩ :=
    around.takeWhile_dropWhile_onLine stops inner.ahead same
  refine ⟨taken, ?_⟩
  unfold Cursor.advanceWhile Cursor.run cursor
  simp only [taken, dropped, List.map_append, List.map_reverse,
    List.append_assoc]

/-- Taking characters on the line stops at its end among the other lines. -/
theorem cursor_takeOnLine
    {inner : Cursor}
    {line : Nat}
    (isOnLine : inner.IsOnLine line)
    (condition : Char → Bool) :
    (around.cursor inner).takeOnLine around.line condition =
      ((inner.takeOnLine line condition).1,
        around.cursor (inner.takeOnLine line condition).2) := by
  have runs :=
    @cursor_advanceWhile around inner
      (fun character =>
        character.position.line == around.line && condition character.value)
      (fun character =>
        character.position.line == line && condition character.value)
      (fun character member => by
        simp [SourceCharacter.onLine, isOnLine.of_ahead member])
      (fun character member => by
        simp [around.apart character member])
  simp only [Cursor.takeOnLine, runs.1, runs.2, List.map_map]
  rfl

section Elements

variable {inner : Cursor}
variable {here : SourceCharacter}
variable (stands : inner.here? = some here)
variable (isOnLine : inner.IsOnLine here.position.line)

include stands

/-- A sign is the same sign among the other lines. -/
theorem sign_eq (kind : TokenKind) :
    Scan.sign (around.cursor inner) (here.onLine around.line) kind =
      around.element (Scan.sign inner here kind) := by
  simp only [Scan.sign, around.cursor_advance stands]
  rfl

include isOnLine

/-- A sign with or without an equal sign is the same among the other lines. -/
theorem signWithEqual_eq (bare paired : TokenKind) :
    Scan.signWithEqual (around.cursor inner) (here.onLine around.line) bare
        paired =
      around.element (Scan.signWithEqual inner here bare paired) := by
  have looked :
      (around.cursor inner.advance).hereOnLine?
          (here.onLine around.line).position.line =
        inner.advance.hereOnLine? here.position.line :=
    around.cursor_hereOnLine? isOnLine.advance
  unfold Scan.signWithEqual
  dsimp only
  rw [around.cursor_advance stands, looked, around.sign_eq stands]
  split
  · next isEqual =>
      obtain ⟨equal, standsAtEqual⟩ :=
        Cursor.exists_here?_of_hereOnLine? isEqual
      rw [around.cursor_advance standsAtEqual]
      rfl
  · rfl

/-- Whatever begins nothing else is the same sign among the other lines. -/
theorem otherSign_eq :
    Scan.otherSign (around.cursor inner) (here.onLine around.line) =
      around.element (Scan.otherSign inner here) := by
  unfold Scan.otherSign
  have value : (here.onLine around.line).value = here.value := rfl
  rw [value]
  split
  all_goals
    first
    | exact around.sign_eq stands _
    | exact around.signWithEqual_eq stands isOnLine _ _

/-- A word is the same word among the other lines. -/
theorem word_eq :
    Scan.word (around.cursor inner) (here.onLine around.line) =
      around.element (Scan.word inner here) := by
  have taken :
      (around.cursor inner.advance).takeOnLine
          (here.onLine around.line).position.line Scan.continuesWord =
        ((inner.advance.takeOnLine here.position.line
            Scan.continuesWord).1,
          around.cursor
            (inner.advance.takeOnLine here.position.line
              Scan.continuesWord).2) :=
    around.cursor_takeOnLine isOnLine.advance Scan.continuesWord
  unfold Scan.word
  rw [around.cursor_advance stands, taken]
  rfl

/-- A slash or a comment is the same among the other lines. -/
theorem slash_eq :
    Scan.slash (around.cursor inner) (here.onLine around.line) =
      around.outcome (Scan.slash inner here) := by
  have looked :
      (around.cursor inner.advance).hereOnLine?
          (here.onLine around.line).position.line =
        inner.advance.hereOnLine? here.position.line :=
    around.cursor_hereOnLine? isOnLine.advance
  have back :
      (around.cursor inner.advance).retreat =
        .ok (around.cursor inner) := by
    rw [← around.cursor_advance stands]
    exact Cursor.retreat_advance (around.cursor_here? stands)
  unfold Scan.slash
  dsimp only
  rw [around.cursor_advance stands, looked, back,
    Cursor.retreat_advance stands]
  split
  · have passed :=
      @cursor_advanceWhile around inner.advance
        (fun character => character.position.line == around.line)
        (fun character => character.position.line == here.position.line)
        (fun character member => by
          simp [SourceCharacter.onLine, isOnLine.advance.of_ahead member])
        (fun character member => by
          simp [around.apart character member])
    exact congrArg (fun after => Except.ok (Scan.Element.skipped after))
      passed.2
  · exact congrArg Except.ok (around.sign_eq stands .slash)

omit stands in
/-- A number is the same number among the other lines. -/
theorem number_eq :
    Scan.number (around.cursor inner) (here.onLine around.line) =
      around.outcome (Scan.number inner here) := by
  have line : (here.onLine around.line).position.line = around.line := rfl
  have whole := around.cursor_takeOnLine isOnLine Char.isDigit
  have wholeOnLine :
      (inner.takeOnLine here.position.line Char.isDigit).2.IsOnLine
        here.position.line :=
    isOnLine.of_characters (Cursor.characters_advanceWhile inner _)
  have looked := around.cursor_hereOnLine? wholeOnLine
  unfold Scan.number
  dsimp only
  rw [line, whole]
  dsimp only
  rw [looked]
  split
  · next pointed =>
      obtain ⟨point, standsAtPoint⟩ :=
        Cursor.exists_here?_of_hereOnLine? pointed
      have back := Cursor.retreat_advance standsAtPoint
      have outerBack :=
        Cursor.retreat_advance (around.cursor_here? standsAtPoint)
      rw [around.cursor_advance standsAtPoint] at outerBack ⊢
      rw [around.cursor_takeOnLine wholeOnLine.advance Char.isDigit,
        outerBack, back]
      dsimp only
      split <;> rfl
  · rfl

end Elements

/-- The rest of a string is read character by character. -/
theorem stringRest_cons
    (line : Nat)
    (decoded : List Char)
    (passed : List SourceCharacter)
    (here : SourceCharacter)
    (rest : List SourceCharacter) :
    Scan.stringRest line decoded passed (here :: rest) =
      if here.position.line ≠ line then
        none
      else if here.value = '"' then
        some (decoded.reverse, here :: passed, rest)
      else if here.value = '\\' then
        match rest with
        | [] => none
        | escaped :: behind =>
            if escaped.position.line ≠ line then
              none
            else
              Scan.stringRest line (Scan.unescape escaped.value :: decoded)
                (escaped :: here :: passed) behind
      else
        Scan.stringRest line (here.value :: decoded) (here :: passed) rest :=
  (Scan.stringRest.eq_def line decoded passed (here :: rest)).trans rfl

/-- No string goes on behind the line. -/
theorem stringRest_behind
    (decoded : List Char)
    (passed : List SourceCharacter) :
    Scan.stringRest around.line decoded passed around.behind = none := by
  cases behind : around.behind with
  | nil =>
      rfl
  | cons first rest =>
      have apart : first.position.line ≠ around.line :=
        around.apart first (by simp [behind])
      rw [stringRest_cons, if_pos apart]

/-- A string ends on its line, whether there are other lines or not. -/
theorem stringRest_eq
    (line : Nat)
    (decoded : List Char)
    (passed ahead : List SourceCharacter)
    (onLine : ∀ character ∈ ahead, character.position.line = line) :
    Scan.stringRest around.line decoded
        (passed.map (·.onLine around.line) ++ around.before)
        (ahead.map (·.onLine around.line) ++ around.behind) =
      (Scan.stringRest line decoded passed ahead).map
        fun (text, passedAfter, aheadAfter) =>
          (text, passedAfter.map (·.onLine around.line) ++ around.before,
            aheadAfter.map (·.onLine around.line) ++ around.behind) := by
  fun_induction Scan.stringRest line decoded passed ahead with
  | case1 decoded passed =>
      exact around.stringRest_behind _ _
  | case2 decoded passed here rest elsewhere =>
      exact (elsewhere (onLine here (by simp))).elim
  | case3 decoded passed here rest hereOnLine isQuote =>
      simp [stringRest_cons, SourceCharacter.onLine, isQuote]
  | case4 decoded passed here hereOnLine notQuote isBackslash =>
      cases behind : around.behind with
      | nil =>
          simp [Scan.stringRest, SourceCharacter.onLine, isBackslash]
      | cons first rest =>
          have apart : first.position.line ≠ around.line :=
            around.apart first (by simp [behind])
          simp [Scan.stringRest, SourceCharacter.onLine, isBackslash, apart]
  | case5 decoded passed here hereOnLine notQuote isBackslash escaped behind
      elsewhere =>
      exact (elsewhere (onLine escaped (by simp))).elim
  | case6 decoded passed here hereOnLine notQuote isBackslash escaped behind
      escapedOnLine hypothesis =>
      have later :=
        hypothesis fun character member => onLine character (by simp [member])
      rw [← later]
      simp [stringRest_cons, SourceCharacter.onLine, isBackslash]
  | case7 decoded passed here rest hereOnLine notQuote notBackslash
      hypothesis =>
      have later :=
        hypothesis fun character member => onLine character (by simp [member])
      rw [← later]
      simp [stringRest_cons, SourceCharacter.onLine, notQuote, notBackslash]

section Elements

variable {inner : Cursor}
variable {here : SourceCharacter}
variable (stands : inner.here? = some here)
variable (isOnLine : inner.IsOnLine here.position.line)

include stands isOnLine

/-- A string is the same string among the other lines, or refused as there. -/
theorem string_eq :
    Scan.string (around.cursor inner) (here.onLine around.line) =
      around.outcome (Scan.string inner here) := by
  have rest :
      Scan.stringRest (here.onLine around.line).position.line []
          (around.cursor inner.advance).passed
          (around.cursor inner.advance).ahead =
        (Scan.stringRest here.position.line [] inner.advance.passed
          inner.advance.ahead).map
          fun (text, passedAfter, aheadAfter) =>
            (text, passedAfter.map (·.onLine around.line) ++ around.before,
              aheadAfter.map (·.onLine around.line) ++ around.behind) :=
    around.stringRest_eq here.position.line [] _ _
      fun _ member => isOnLine.advance.of_ahead member
  unfold Scan.string
  dsimp only
  rw [around.cursor_advance stands, rest]
  cases Scan.stringRest here.position.line [] inner.advance.passed
      inner.advance.ahead with
  | none =>
      rfl
  | some closed =>
      rfl

/-- An element of a line is the same one with other lines around it. -/
theorem element_eq :
    Scan.element (around.cursor inner) (here.onLine around.line) =
      around.outcome (Scan.element inner here) := by
  have value : (here.onLine around.line).value = here.value := rfl
  unfold Scan.element
  rw [value]
  split
  · exact congrArg (fun after => Except.ok (Scan.Element.skipped after))
      (around.cursor_advance stands)
  · split
    · exact around.slash_eq stands isOnLine
    · split
      · exact congrArg Except.ok (around.word_eq stands isOnLine)
      · split
        · exact around.number_eq isOnLine
        · split
          · exact around.string_eq stands isOnLine
          · exact congrArg Except.ok (around.otherSign_eq stands isOnLine)

end Elements

/-- The cursor behind a line among its surroundings. -/
def behindLine (inner : Cursor) : Cursor where
  lineCount := around.lineCount
  passed :=
    (inner.characters.map (·.onLine around.line)).reverse ++ around.before
  ahead := around.behind

/-- At the end of its line the cursor stands in front of the lines behind. -/
theorem cursor_eq_behindLine
    {inner : Cursor}
    (ended : inner.here? = none) :
    around.cursor inner = around.behindLine inner := by
  have nothing : inner.ahead = [] := by
    simpa [Cursor.here?] using ended
  simp [cursor, behindLine, Cursor.characters, nothing]

/-- Behind its line the place depends on the characters only. -/
theorem behindLine_eq_behindLine
    {inner other : Cursor}
    (same : inner.characters = other.characters) :
    around.behindLine inner = around.behindLine other := by
  unfold behindLine
  rw [same]

/--
A scan finds what it finds on the line by itself, and goes on behind the line
without the end token.  If it fails on the line, it fails.
-/
theorem tokens_eq
    {line : Nat}
    (inner : Cursor)
    (isOnLine : inner.IsOnLine line) :
    Scan.tokens (around.cursor inner) =
      Scan.joined around.line (Scan.tokens inner)
        (Scan.tokens (around.behindLine inner)) := by
  induction inner using Scan.tokens_induction with
  | ended inner stands same =>
      rw [same, around.cursor_eq_behindLine stands]
      exact (Scan.joined_end _ _ _).symm
  | failed inner here stands found same =>
      have hereOnLine := isOnLine.of_here? stands
      rw [same, Scan.tokens_eq, around.cursor_here? stands]
      dsimp only
      rw [around.element_eq stands (hereOnLine ▸ isOnLine), found]
      rfl
  | skipped inner here after stands found beyond same hypothesis =>
      have hereOnLine := isOnLine.of_here? stands
      have later := hypothesis (isOnLine.of_characters beyond.characters)
      rw [around.behindLine_eq_behindLine beyond.characters] at later
      rw [same, Scan.tokens_eq, around.cursor_here? stands]
      dsimp only
      rw [around.element_eq stands (hereOnLine ▸ isOnLine), found]
      exact later
  | taken inner here token after stands found beyond notEnd same hypothesis =>
      have hereOnLine := isOnLine.of_here? stands
      have later := hypothesis (isOnLine.of_characters beyond.characters)
      rw [around.behindLine_eq_behindLine beyond.characters] at later
      rw [same, Scan.joined_map_cons notEnd, ← later, Scan.tokens_eq,
        around.cursor_here? stands]
      dsimp only
      rw [around.element_eq stands (hereOnLine ▸ isOnLine), found]
      rfl

end Surroundings

end OwlScript
