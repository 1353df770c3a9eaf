import OwlScript.Proofs.Except
import OwlScript.Proofs.Token.ScannerTokens

namespace OwlScript

/-!
# The progress of a scanner

Each time the scanner takes a token it gets further on in the text, whatever it
has skipped and given back on the way, and it finds the tokens that a cursor on
the text finds.  So no loop runs out of rounds, no move back goes wrong, and the
only failure of a scan is a string that does not end.
-/

namespace Scan

/-- A scan takes no more tokens than there are characters ahead, and the end. -/
theorem length_le_of_tokens_eq_ok
    (cursor : Cursor)
    {found : List Token}
    (scanned : tokens cursor = .ok found) :
    found.length ≤ cursor.ahead.length + 1 := by
  induction cursor using tokens_induction generalizing found with
  | ended cursor stands same =>
      rw [same] at scanned
      cases scanned
      exact Nat.le_add_left 1 _
  | failed cursor here stands element same =>
      rw [same] at scanned
      cases scanned
  | skipped cursor here after stands element beyond same hypothesis =>
      rw [same] at scanned
      have fewer := hypothesis scanned
      have shorter := beyond.length_ahead_lt
      omega
  | taken cursor here token after stands element beyond notEnd same
      hypothesis =>
      rw [same] at scanned
      cases later : tokens after with
      | error failure =>
          rw [later] at scanned
          cases scanned
      | ok rest =>
          rw [later] at scanned
          cases scanned
          have fewer := hypothesis later
          have shorter := beyond.length_ahead_lt
          rw [List.length_cons]
          omega

/--
Between two cursors there are only blank characters and comments, and behind
the second one a token begins or the text ends.
-/
structure SkipsTo (cursor final : Cursor) : Prop where
  tokens : Scan.tokens cursor = Scan.tokens final
  characters : final.characters = cursor.characters
  place_le : cursor.place ≤ final.place
  stops :
    ∀ here, final.here? = some here →
      Text.isBlank here.value = false ∧
        (here.value = '/' →
          final.advance.hereOnLine? here.position.line ≠ some '/')

namespace SkipsTo

variable {cursor after final : Cursor}
variable {here : SourceCharacter}

/-- Where there is nothing to skip, skipping leads nowhere. -/
theorem refl
    (stops :
      ∀ here, cursor.here? = some here →
        Text.isBlank here.value = false ∧
          (here.value = '/' →
            cursor.advance.hereOnLine? here.position.line ≠ some '/')) :
    SkipsTo cursor cursor :=
  ⟨rfl, rfl, Nat.le_refl _, stops⟩

/-- What is skipped in front is skipped, and then what is skipped behind it. -/
theorem ofElement
    (stands : cursor.here? = some here)
    (skipped : element cursor here = .ok (.skipped after))
    (skips : SkipsTo after final) :
    SkipsTo cursor final := by
  have beyond : after.Beyond cursor := element_beyond stands skipped
  have same := tokens_eq cursor
  rw [stands] at same
  simp only [skipped] at same
  exact
    { tokens := same.trans skips.tokens
      characters := skips.characters.trans beyond.characters
      place_le := Nat.le_trans (Nat.le_of_lt beyond.place) skips.place_le
      stops := skips.stops }

end SkipsTo

end Scan

/-- Taking all characters of a line moves on to its end. -/
theorem Cursor.takeOnLine_true
    (cursor : Cursor)
    (line : Nat) :
    (cursor.takeOnLine line fun _ => true).2 =
      cursor.advanceWhile fun character => character.position.line == line := by
  simp only [takeOnLine, Bool.and_true]

namespace Scans

variable {lines : List Line}
variable {scanner : Scanner}
variable {cursor : Cursor}
variable {here : SourceCharacter}
variable {rounds : Nat}

/-- The loop over a comment goes to the end of its line. -/
theorem comes_skipLineFrom
    (follows : scanner.Follows lines cursor)
    (enough : cursor.ahead.length < rounds)
    (line : Nat) :
    Comes lines (skipLineFrom line rounds) scanner ()
      (cursor.takeOnLine (line + 1) fun _ => true).2 := by
  induction rounds generalizing scanner cursor with
  | zero =>
      cases enough
  | succ rounds hypothesis =>
      have seen := follows.current_of_isOnLine line
      refine Comes.get_bind ?_
      cases onLine : scanner.isOnLine line with
      | false =>
          rw [onLine, if_neg Bool.false_ne_true] at seen
          rw [Cursor.takeOnLine_of_not_kept (by rw [← seen]; rfl)]
          exact .pure follows ()
      | true =>
          rw [onLine, if_pos rfl] at seen
          have positive := Cursor.length_ahead_pos_of_hereOnLine? seen.symm
          have kept :
              (cursor.hereOnLine? (line + 1)).filter (fun _ => true) =
                some scanner.buffer.current := by
            rw [← seen]
            rfl
          rw [Cursor.takeOnLine_of_kept kept]
          refine (comes_moveOn follows).bind fun after followsNext => ?_
          refine hypothesis followsNext ?_
          rw [Cursor.length_ahead_advance]
          omega

/-- A slash begins a comment, or the scanner goes back to it. -/
theorem comes_skipElement_slash
    (follows : scanner.Follows lines cursor)
    (isHere : cursor.here? = some here)
    (notBlank : Text.isBlank here.value = false)
    (isSlash : here.value = '/') :
    (∃ after,
      Scan.element cursor here = .ok (.skipped after) ∧
        Comes lines skipElement scanner true after) ∨
      Scan.SkipsTo cursor cursor ∧
        Comes lines skipElement scanner false cursor := by
  have onLine := follows.lineNumber_succ isHere
  have ahead :
      ∀ {value : Bool} {final : Cursor},
        Comes lines
            (do
              if (← moveOnLine scanner.buffer.lineNumber) = some '/' then
                skipLineFrom scanner.buffer.lineNumber scanner.rounds
                return true
              else
                moveBack
                return false)
            scanner value final →
          Comes lines skipElement scanner value final := by
    intro value final comes
    refine Comes.get_bind ?_
    rw [follows.atEnd_eq, isHere, follows.current_eq isHere, notBlank]
    dsimp only
    rw [if_pos isSlash]
    exact comes
  by_cases isComment :
      cursor.advance.hereOnLine? here.position.line = some '/'
  · refine .inl ⟨cursor.advance.advanceWhile fun character =>
      character.position.line == here.position.line, ?_, ahead ?_⟩
    · rw [Scan.element, notBlank, if_neg Bool.false_ne_true, if_pos isSlash,
        Scan.slash, if_pos isComment]
      rfl
    · have enough : cursor.advance.ahead.length < scanner.rounds := by
        have positive := follows.length_ahead_lt_rounds
        rw [Cursor.length_ahead_advance]
        omega
      refine (comes_moveOnLine follows _).bind fun after followsNext => ?_
      have skipped :=
        comes_skipLineFrom followsNext enough scanner.buffer.lineNumber
      rw [onLine, Cursor.takeOnLine_true] at skipped
      rw [onLine, if_pos isComment]
      exact skipped.bind fun last followsLast => .pure followsLast true
  · refine .inr ⟨.refl ?_, ahead (comes_lookBack follows isHere _ ?_)⟩
    · intro other stands
      rw [isHere] at stands
      cases stands
      exact ⟨notBlank, fun _ => isComment⟩
    · rw [onLine, if_neg isComment]

/-- The element here is skipped, or there is none or a token. -/
theorem comes_skipElement (follows : scanner.Follows lines cursor) :
    (∃ here after,
      cursor.here? = some here ∧
        Scan.element cursor here = .ok (.skipped after) ∧
          Comes lines skipElement scanner true after) ∨
      Scan.SkipsTo cursor cursor ∧
        Comes lines skipElement scanner false cursor := by
  cases isHere : cursor.here? with
  | none =>
      refine .inr ⟨.refl ?_, Comes.get_bind ?_⟩
      · intro here stands
        rw [isHere] at stands
        cases stands
      · rw [follows.atEnd_eq, isHere]
        exact .pure follows false
  | some here =>
      have onLine := follows.lineNumber_succ isHere
      cases isBlank : Text.isBlank here.value with
      | true =>
          refine .inl ⟨here, cursor.advance, rfl, ?_, Comes.get_bind ?_⟩
          · rw [Scan.element, isBlank]
            rfl
          · rw [follows.atEnd_eq, isHere, follows.current_eq isHere, isBlank]
            exact (comes_moveOn follows).bind fun after followsNext =>
              .pure followsNext true
      | false =>
          by_cases isSlash : here.value = '/'
          · rcases comes_skipElement_slash follows isHere isBlank isSlash with
              ⟨after, skipped, comes⟩ | ⟨nothing, comes⟩
            · exact .inl ⟨here, after, rfl, skipped, comes⟩
            · exact .inr ⟨nothing, comes⟩
          · refine .inr ⟨.refl ?_, Comes.get_bind ?_⟩
            · intro other stands
              rw [isHere] at stands
              cases stands
              exact ⟨isBlank, fun slash => absurd slash isSlash⟩
            · rw [follows.atEnd_eq, isHere, follows.current_eq isHere,
                isBlank]
              dsimp only
              rw [if_neg isSlash]
              exact .pure follows false

/-- The loop over blank characters and comments skips all of them. -/
theorem comes_skipTriviaFrom
    (follows : scanner.Follows lines cursor)
    (enough : cursor.ahead.length < rounds) :
    ∃ final,
      Scan.SkipsTo cursor final ∧
        Comes lines (skipTriviaFrom rounds) scanner () final := by
  induction rounds generalizing scanner cursor with
  | zero =>
      cases enough
  | succ rounds hypothesis =>
      rcases comes_skipElement follows with
        ⟨here, after, isHere, skipped, step⟩ | ⟨nothing, step⟩
      · have shorter :=
          (Scan.element_beyond isHere skipped).length_ahead_lt
        have enoughLater : after.ahead.length < rounds :=
          Nat.lt_of_lt_of_le shorter (Nat.le_of_lt_succ enough)
        obtain ⟨next, stepped, followsNext⟩ := step
        obtain ⟨final, skips, last, finished, followsLast⟩ :=
          hypothesis followsNext enoughLater
        refine ⟨final, .ofElement isHere skipped skips, last, ?_, followsLast⟩
        rw [skipTriviaFrom, bind_apply, stepped]
        exact finished
      · refine ⟨cursor, nothing, step.bind fun after followsHere => ?_⟩
        exact .pure followsHere ()

/--
What comes of the search for the next token: there is none and the text ends,
or there is one and the scanner is further on, or the search fails as the scan
of the cursor does.
-/
inductive TakesNext (lines : List Line) (cursor : Cursor) :
    EStateM.Result ScanStop Scanner (Option Token) → Prop where
  | ended
      {after : Scanner}
      {final : Cursor}
      (follows : after.Follows lines final)
      (ended : final.here? = none)
      (tokens : Scan.tokens cursor = .ok [Scan.endToken final]) :
      TakesNext lines cursor (.ok none after)
  | token
      {token : Token}
      {after : Scanner}
      {final : Cursor}
      (follows : after.Follows lines final)
      (beyond : final.Beyond cursor)
      (tokens :
        Scan.tokens cursor = (Scan.tokens final).map (token :: ·)) :
      TakesNext lines cursor (.ok (some token) after)
  | failed
      {failure : Failure}
      {after : Scanner}
      (tokens : Scan.tokens cursor = .error failure) :
      TakesNext lines cursor (.error (.reported failure) after)

/-- The next token is the element behind everything that is skipped. -/
theorem takesNext_next (follows : scanner.Follows lines cursor) :
    TakesNext lines cursor (next scanner) := by
  obtain ⟨final, skips, after, skipped, followsFinal⟩ :=
    comes_skipTriviaFrom follows follows.length_ahead_lt_rounds
  have skippedAll : skipTrivia scanner = .ok () after := skipped
  have tokens := skips.tokens.trans (Scan.tokens_eq final)
  rw [next, bind_apply, skippedAll]
  dsimp only
  rw [get_bind_apply, followsFinal.position?_eq]
  cases isHere : final.here? with
  | none =>
      rw [isHere] at tokens
      exact .ended followsFinal isHere tokens
  | some here =>
      obtain ⟨notBlank, noComment⟩ := skips.stops here isHere
      have takes :=
        takesElement_tokenAt followsFinal isHere notBlank noComment
      rw [isHere] at tokens
      dsimp only [Option.map_some] at tokens ⊢
      rw [bind_apply]
      cases found : Scan.element final here with
      | error failure =>
          rw [found] at takes tokens
          obtain ⟨last, stopped⟩ := takes
          rw [stopped]
          exact .failed tokens
      | ok element =>
          rw [found] at takes tokens
          cases element with
          | skipped behind =>
              exact takes.elim
          | token token behind =>
              obtain ⟨last, taken, followsBehind⟩ := takes
              have further : behind.Beyond final :=
                Scan.element_beyond isHere found
              have beyond : behind.Beyond cursor :=
                { characters := further.characters.trans skips.characters
                  place := Nat.lt_of_le_of_lt skips.place_le further.place }
              rw [taken]
              exact .token followsBehind beyond tokens

/-- What a run of the scanner gives or stops with. -/
def result?
    {α : Type} :
    EStateM.Result ScanStop Scanner α → Except ScanStop α
  | .ok value _ => .ok value
  | .error stop _ => .error stop

/-- The loop over all tokens finds those that the scan of the cursor finds. -/
theorem result?_tokensFrom
    (follows : scanner.Follows lines cursor)
    (enough : cursor.ahead.length < rounds)
    (found : List Token) :
    result? (tokensFrom rounds found scanner) =
      ((Scan.tokens cursor).map (found.reverse ++ ·)).mapError
        ScanStop.reported := by
  induction rounds generalizing scanner cursor found with
  | zero =>
      cases enough
  | succ rounds hypothesis =>
      have takes := takesNext_next follows
      rw [tokensFrom, bind_apply]
      cases outcome : next scanner with
      | error stop after =>
          rw [outcome] at takes
          cases takes with
          | failed tokens =>
              rw [tokens]
              rfl
      | ok token? after =>
          rw [outcome] at takes
          cases takes with
          | ended followsFinal ended tokens =>
              rw [tokens]
              dsimp only
              rw [get_bind_apply, followsFinal.endPosition_eq,
                List.reverse_cons]
              rfl
          | token followsFinal beyond tokens =>
              have shorter := beyond.length_ahead_lt
              rw [tokens]
              refine (hypothesis followsFinal (by omega) _).trans ?_
              cases Scan.tokens _ with
              | error failure =>
                  rfl
              | ok later =>
                  simp [Except.map]

end Scans

/-- There is a cursor at every index of a text. -/
theorem IndexedText.exists_cursor (text : IndexedText) :
    ∃ cursor : Cursor, cursor.StandsAt text := by
  refine ⟨⟨text.lines.length,
    ((locateLines text.lines).take text.index).reverse,
    (locateLines text.lines).drop text.index⟩, rfl, ?_, ?_⟩
  · rw [Cursor.characters, List.reverse_reverse, List.take_append_drop]
  · have within := text.index_le
    rw [Cursor.place, List.length_reverse, List.length_take,
      length_locateLines]
    exact Nat.min_eq_left within

namespace Scanner

/-- The scanner stands on a character of the lines, or at their end. -/
def IsOn (lines : List Line) (scanner : Scanner) : Prop :=
  ∃ text : IndexedText, text.lines = lines ∧ scanner.buffer.StandsAt text

/-- The number of characters in front of where the scanner stands. -/
def index (scanner : Scanner) : Nat :=
  scanner.buffer.place.index scanner.buffer.lines

/--
What may come of the search for the next token from a place in some lines: a
token, with the scanner further on in the same lines, or the end, or a string
that does not end.
-/
inductive Progresses (lines : List Line) (before : Scanner) :
    EStateM.Result ScanStop Scanner (Option Token) → Prop where
  | token
      {token : Token}
      {after : Scanner}
      (isOn : after.IsOn lines)
      (further : before.index < after.index) :
      Progresses lines before (.ok (some token) after)
  | ended
      {after : Scanner}
      (isOn : after.IsOn lines)
      (atEnd : after.atEnd = true) :
      Progresses lines before (.ok none after)
  | failed
      {after : Scanner}
      (position : Position) :
      Progresses lines before
        (.error (.reported (Scan.unterminatedString position)) after)

/-- A scanner that follows a cursor is on the lines of that cursor. -/
theorem Follows.isOn
    {lines : List Line}
    {scanner : Scanner}
    {cursor : Cursor}
    (follows : scanner.Follows lines cursor) :
    scanner.IsOn lines := by
  obtain ⟨text, sameLines, stands, -⟩ := follows
  exact ⟨text, sameLines, stands⟩

/-- The index of a scanner is that of its buffer. -/
theorem index_eq
    {scanner : Scanner}
    {text : IndexedText}
    (stands : scanner.buffer.StandsAt text) :
    scanner.index = text.index := by
  rw [index, stands.lines, stands.index]

/-- Whatever is skipped and given back, a token takes the scanner further on. -/
theorem progresses_next
    {lines : List Line}
    {scanner : Scanner}
    (isOn : scanner.IsOn lines) :
    Progresses lines scanner (Scans.next scanner) := by
  obtain ⟨text, sameLines, stands⟩ := isOn
  obtain ⟨cursor, cursorStands⟩ := text.exists_cursor
  have takes :=
    Scans.takesNext_next ⟨text, sameLines, stands, cursorStands⟩
  generalize Scans.next scanner = outcome at takes
  cases takes with
  | ended follows ended tokens =>
      refine .ended follows.isOn ?_
      rw [follows.atEnd_eq, ended]
      rfl
  | token follows beyond tokens =>
      obtain ⟨further, sameLinesFurther, standsFurther, cursorStandsFurther⟩ :=
        follows
      refine .token ⟨further, sameLinesFurther, standsFurther⟩ ?_
      have behind := beyond.place
      rw [cursorStands.place, cursorStandsFurther.place] at behind
      rw [index_eq stands, index_eq standsFurther]
      exact behind
  | failed tokens =>
      obtain ⟨character, -, -, rfl⟩ :=
        Scan.exists_of_tokens_eq_error cursor tokens
      exact .failed character.position

/-- The tokens from a buffer on are those from a cursor at the same place. -/
theorem scan_eq_tokens
    {lines : List Line}
    {buffer : Buffer}
    {cursor : Cursor}
    (follows : (ofBuffer buffer).Follows lines cursor) :
    scan buffer = (Scan.tokens cursor).mapError ScanStop.reported := by
  have found :=
    Scans.result?_tokensFrom follows follows.length_ahead_lt_rounds []
  have same :
      scan buffer =
        Scans.result?
          (Scans.tokensFrom (ofBuffer buffer).rounds [] (ofBuffer buffer)) := by
    unfold scan Scans.result?
    dsimp only
    split <;> next outcome => rw [outcome]
  rw [same, found]
  cases Scan.tokens cursor with
  | error failure =>
      rfl
  | ok tokens =>
      rfl

/-- A scanner on lines that were loaded follows the cursor on them. -/
theorem follows_commit (buffer : Buffer) (lines : List Line) :
    (ofBuffer (buffer.commit lines)).Follows lines (Cursor.ofLines lines) :=
  ⟨.ofLines lines, rfl, buffer.standsAt_commit lines,
    Cursor.standsAt_ofLines lines⟩

/-- A text is scanned to the same tokens, whatever was loaded before. -/
theorem scanText_eq (text : String) (buffer : Buffer) :
    scanText text buffer =
      (tokensOfText text).mapError ScanStop.reported :=
  scan_eq_tokens (follows_commit _ [Line.ofText text])

/-- So is a file, and one that cannot be read is reported. -/
theorem scanFile_eq
    (files : Files)
    (path : String)
    (buffer : Buffer) :
    scanFile files path buffer =
      (tokensOfFile files path).mapError ScanStop.reported := by
  unfold scanFile tokensOfFile Cursor.ofFile Buffer.loadFile LineStore.load
  cases files path with
  | none =>
      rfl
  | some content =>
      exact scan_eq_tokens (follows_commit _ (linesOfContent content))

/--
What is known of the scan of some lines that have just been loaded.  Its steps
can begin anywhere in the lines.
-/
structure ScansThrough (lines : List Line) (loaded : Buffer) : Prop where
  isOn : (ofBuffer loaded).IsOn lines
  /-- The scan comes to an end, with the tokens that a cursor finds. -/
  terminates :
    scan loaded =
      (Scan.tokens (Cursor.ofLines lines)).mapError ScanStop.reported
  /-- There is one end token, and it is behind all others. -/
  closed :
    ∀ tokens, scan loaded = .ok tokens →
      ∃ body,
        tokens = body ++ [⟨.endOfInput, "", loaded.endPosition⟩] ∧
          body.length ≤ (charactersOf lines).length ∧
            ∀ token ∈ body, token.kind ≠ .endOfInput
  /-- Nothing else fails than a string, at the quote where it begins. -/
  fails :
    ∀ stop, scan loaded = .error stop →
      ∃ quote ∈ locateLines lines,
        quote.value = '"' ∧
          stop = .reported (Scan.unterminatedString quote.position)
  progresses :
    ∀ scanner : Scanner,
      scanner.IsOn lines →
        Progresses lines scanner (Scans.next scanner)
  movesBack :
    ∀ scanner : Scanner,
      scanner.IsOn lines →
        scanner.atEnd = false →
          Scans.moveBack scanner.movedOn = .ok () (ofBuffer scanner.buffer)

/--
Lines are scanned through, whatever the buffer held before they were loaded.
-/
theorem scansThrough_commit (buffer : Buffer) (lines : List Line) :
    ScansThrough lines (buffer.commit lines) := by
  have follows := follows_commit buffer lines
  have terminates := scan_eq_tokens follows
  -- All but the steps is known from the scan of the text, which comes to the
  -- same.
  refine ⟨follows.isOn, terminates, ?_, ?_, fun _ => progresses_next, ?_⟩
  · intro tokens scanned
    rw [terminates] at scanned
    have found := Except.mapError_eq_ok_iff.1 scanned
    obtain ⟨body, rfl, noEnd⟩ := Scan.exists_of_tokens_eq_ok _ found
    have fewer := Scan.length_le_of_tokens_eq_ok _ found
    have ahead :
        (Cursor.ofLines lines).ahead.length = (charactersOf lines).length :=
      length_locateLines lines
    have ending :
        (buffer.commit lines).endPosition =
          (Cursor.ofLines lines).endPosition :=
      follows.endPosition_eq
    rw [List.length_append, ahead] at fewer
    refine ⟨body, ?_, Nat.le_of_succ_le_succ fewer, noEnd⟩
    rw [ending]
    rfl
  · intro stop failed
    rw [terminates] at failed
    obtain ⟨failure, found, rfl⟩ := Except.mapError_eq_error_iff.1 failed
    obtain ⟨quote, member, isQuote, rfl⟩ :=
      Scan.exists_of_tokens_eq_error _ found
    rw [Cursor.characters_ofLines] at member
    exact ⟨quote, member, isQuote, rfl⟩
  · rintro scanner ⟨text, sameLines, stands⟩ notEnded
    obtain ⟨cursor, cursorStands⟩ := text.exists_cursor
    have followsHere : scanner.Follows lines cursor :=
      ⟨text, sameLines, stands, cursorStands⟩
    rw [followsHere.atEnd_eq, Option.isNone_eq_false_iff,
      Option.isSome_iff_exists] at notEnded
    obtain ⟨here, isHere⟩ := notEnded
    exact Scans.moveBack_movedOn followsHere isHere

/--
Scanning makes progress and never fails to give a character back, whatever
lines are loaded, and whatever the buffer held before.  The scan of the lines
comes to an end.  Each search that finds a token leads further on in the text,
so there are at most as many tokens as characters, and one end token behind
them.  A move back leads to the buffer from which the scanner moved on, even
from the end of the text or from another line.  So a text fails with nothing but
a string that does not end, and a file with nothing else unless it cannot be
read.
-/
theorem scansThrough_and_failures (buffer : Buffer) :
    (∀ lines, ScansThrough lines (buffer.commit lines)) ∧
      (∀ text,
        scanText text buffer =
            (tokensOfText text).mapError ScanStop.reported ∧
          ∀ stop, scanText text buffer = .error stop →
            ∃ position,
              stop = .reported (Scan.unterminatedString position)) ∧
      ∀ files path,
        scanFile files path buffer =
            (tokensOfFile files path).mapError ScanStop.reported ∧
          ∀ stop, scanFile files path buffer = .error stop →
            (files path = none ∧ stop = .reported (.unreadable path)) ∨
              ∃ position,
                stop = .reported (Scan.unterminatedString position) := by
  refine ⟨scansThrough_commit buffer, ?_, ?_⟩
  · intro text
    refine ⟨scanText_eq text buffer, fun stop failed => ?_⟩
    obtain ⟨quote, -, -, stopped⟩ :=
      (scansThrough_commit _ [Line.ofText text]).fails stop failed
    exact ⟨quote.position, stopped⟩
  · intro files path
    refine ⟨scanFile_eq files path buffer, fun stop failed => ?_⟩
    unfold scanFile Buffer.loadFile LineStore.load at failed
    cases content : files path with
    | none =>
        rw [content] at failed
        cases failed
        exact .inl ⟨rfl, rfl⟩
    | some bytes =>
        rw [content] at failed
        obtain ⟨quote, -, -, stopped⟩ :=
          (scansThrough_commit _ (linesOfContent bytes)).fails stop failed
        exact .inr ⟨quote.position, stopped⟩

/-- The point and the slash are given back, and the marker is not the end. -/
example :
    (scanText "1.\x7f/" Buffer.empty).toOption.map
        (·.map fun token => token.lexeme) =
      some ["1", ".", "\x7f", "/", ""] := by
  decide +kernel

end Scanner

end OwlScript
