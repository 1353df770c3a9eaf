import OwlScript.Proofs.Token.Spans
import OwlScript.Proofs.Token.Surroundings

namespace OwlScript

/-!
# Scanning spans

In a text of one line, a cursor stands between the characters in front of it
and those behind it, and these two lists say everything about it.  If a span
is next and nothing behind it goes on with it, the scanner takes exactly this
span, whatever was in front.
-/

/-- Characters on the first line from a column on. -/
def charactersFrom (column : Nat) : List Char → List SourceCharacter
  | [] => []
  | value :: rest => ⟨value, ⟨1, column⟩⟩ :: charactersFrom (column + 1) rest

/-- The characters behind others are placed behind them. -/
theorem charactersFrom_append
    (column : Nat)
    (front behind : List Char) :
    charactersFrom column (front ++ behind) =
      charactersFrom column front ++
        charactersFrom (column + front.length) behind := by
  induction front generalizing column with
  | nil =>
      rfl
  | cons first rest hypothesis =>
      rw [List.cons_append, charactersFrom, hypothesis (column + 1),
        List.length_cons, Nat.add_assoc, Nat.add_comm 1]
      rfl

/-- Characters with their indices are the characters placed from a column on. -/
theorem mapIdx_eq_charactersFrom
    (column : Nat)
    (text : List Char) :
    (text.mapIdx fun index value =>
      (⟨value, ⟨1, index + column⟩⟩ : SourceCharacter)) =
      charactersFrom column text := by
  induction text generalizing column with
  | nil =>
      rfl
  | cons first rest hypothesis =>
      have shifted (index : Nat) :
          index + 1 + column = index + (column + 1) := by
        omega
      rw [List.mapIdx_cons, Nat.zero_add, charactersFrom,
        ← hypothesis (column + 1)]
      simp only [shifted]

/-- A run of characters depends on the characters and not on their places. -/
theorem takeWhile_dropWhile_charactersFrom
    (condition : Char → Bool)
    (column : Nat)
    (text : List Char) :
    let inside := fun character : SourceCharacter =>
      character.position.line == 1 && condition character.value
    (charactersFrom column text).takeWhile inside =
        charactersFrom column (text.takeWhile condition) ∧
      (charactersFrom column text).dropWhile inside =
        charactersFrom (column + (text.takeWhile condition).length)
          (text.dropWhile condition) := by
  induction text generalizing column with
  | nil =>
      exact ⟨rfl, rfl⟩
  | cons first rest hypothesis =>
      obtain ⟨taken, dropped⟩ := hypothesis (column + 1)
      simp only [charactersFrom, List.takeWhile_cons, List.dropWhile_cons,
        beq_self_eq_true, Bool.true_and]
      cases condition first with
      | false =>
          exact ⟨rfl, rfl⟩
      | true =>
          simp only [↓reduceIte, charactersFrom, List.length_cons]
          refine ⟨by rw [taken], ?_⟩
          rw [dropped, Nat.add_assoc, Nat.add_comm 1]

/-- Placing characters does not change them. -/
theorem map_value_charactersFrom
    (column : Nat)
    (text : List Char) :
    (charactersFrom column text).map SourceCharacter.value = text := by
  induction text generalizing column with
  | nil =>
      rfl
  | cons first rest hypothesis =>
      rw [charactersFrom, List.map_cons, hypothesis]

namespace Cursor

/-- The cursor in a text of one line between two parts of it. -/
def between (front behind : List Char) : Cursor where
  lineCount := 1
  passed := (charactersFrom 1 front).reverse
  ahead := charactersFrom (front.length + 1) behind

/-- A text is scanned from the cursor with nothing in front. -/
theorem ofText_eq_between (text : String) :
    ofText text = between [] text.toList := by
  have ahead :
      locateLines [Line.ofText text] = charactersFrom 1 text.toList := by
    unfold locateLines locateLine
    rw [← mapIdx_eq_charactersFrom]
    simp [Line.ofText]
  unfold ofText ofLines
  rw [ahead]
  rfl

variable (front : List Char)

/-- The current character is the first one ahead, in the next column. -/
theorem here?_between (first : Char) (rest : List Char) :
    (between front (first :: rest)).here? =
      some ⟨first, ⟨1, front.length + 1⟩⟩ :=
  rfl

/-- What is passed with a part of a text, and what is ahead behind it. -/
theorem between_append (part behind : List Char) :
    between (front ++ part) behind =
      { lineCount := 1
        passed :=
          (charactersFrom (front.length + 1) part).reverse ++
            (charactersFrom 1 front).reverse
        ahead := charactersFrom (front.length + 1 + part.length) behind } := by
  unfold between
  rw [charactersFrom_append, List.reverse_append, List.length_append,
    Nat.add_comm 1, Nat.add_right_comm]

/-- A step passes the first character ahead. -/
theorem advance_between (first : Char) (rest : List Char) :
    (between front (first :: rest)).advance =
      between (front ++ [first]) rest := by
  rw [between_append]
  rfl

/-- On the one line there is a current character as long as one is ahead. -/
theorem hereOnLine?_between (behind : List Char) :
    (between front behind).hereOnLine? 1 = behind.head? := by
  cases behind with
  | nil =>
      rfl
  | cons first rest =>
      rfl

/-- Moving on while a condition holds passes the characters that have it. -/
theorem advanceWhile_between
    (condition : Char → Bool)
    (behind : List Char) :
    (between front behind).advanceWhile
        (fun character =>
          character.position.line == 1 && condition character.value) =
      between (front ++ behind.takeWhile condition)
        (behind.dropWhile condition) := by
  obtain ⟨taken, dropped⟩ :=
    takeWhile_dropWhile_charactersFrom condition (front.length + 1) behind
  rw [between_append]
  unfold advanceWhile run between
  rw [taken, dropped]

/-- Taking characters on the line takes those that have the condition. -/
theorem takeOnLine_between
    (condition : Char → Bool)
    (behind : List Char) :
    (between front behind).takeOnLine 1 condition =
      (behind.takeWhile condition,
        between (front ++ behind.takeWhile condition)
          (behind.dropWhile condition)) := by
  have taken :=
    (takeWhile_dropWhile_charactersFrom condition (front.length + 1)
      behind).1
  unfold takeOnLine
  dsimp only
  rw [advanceWhile_between]
  unfold run between
  rw [taken, map_value_charactersFrom]

/-- A part that satisfies a condition is taken up to what fails it. -/
theorem takeOnLine_between_append
    {condition : Char → Bool}
    {part behind : List Char}
    (holds : ∀ character ∈ part, condition character = true)
    (stops : StopsAt condition behind) :
    (between front (part ++ behind)).takeOnLine 1 condition =
      (part, between (front ++ part) behind) := by
  obtain ⟨taken, dropped⟩ := takeWhile_dropWhile_of_stopsAt holds stops
  rw [takeOnLine_between, taken, dropped]

/-- A move back undoes a step. -/
theorem retreat_between (first : Char) (rest : List Char) :
    (between (front ++ [first]) rest).retreat =
      .ok (between front (first :: rest)) := by
  rw [← advance_between]
  exact retreat_advance (here?_between front first rest)

end Cursor

namespace Scan

open Cursor

variable (front : List Char)

/-- A plain sign is a token of one character. -/
theorem sign_between
    (kind : TokenKind)
    (first : Char)
    (rest : List Char) :
    sign (between front (first :: rest)) ⟨first, ⟨1, front.length + 1⟩⟩ kind =
      .token ⟨kind, String.ofList [first], ⟨1, front.length + 1⟩⟩
        (between (front ++ [first]) rest) := by
  unfold sign
  rw [advance_between]
  rfl

/-- A sign without an equal sign behind it is a token of one character. -/
theorem signWithEqual_between_bare
    {behind : List Char}
    (stops : StopsAt (· == '=') behind)
    (bare paired : TokenKind)
    (first : Char) :
    signWithEqual (between front (first :: behind))
        ⟨first, ⟨1, front.length + 1⟩⟩ bare paired =
      .token ⟨bare, String.ofList [first], ⟨1, front.length + 1⟩⟩
        (between (front ++ [first]) behind) := by
  have notEqual : behind.head? ≠ some '=' := by
    intro isEqual
    cases stops '=' isEqual
  unfold signWithEqual
  dsimp only
  rw [advance_between, hereOnLine?_between, if_neg notEqual, sign_between]

/-- A sign and an equal sign behind it are one token. -/
theorem signWithEqual_between_paired
    (bare paired : TokenKind)
    (first : Char)
    (behind : List Char) :
    signWithEqual (between front (first :: '=' :: behind))
        ⟨first, ⟨1, front.length + 1⟩⟩ bare paired =
      .token ⟨paired, String.ofList [first, '='], ⟨1, front.length + 1⟩⟩
        (between (front ++ [first, '=']) behind) := by
  unfold signWithEqual
  dsimp only
  rw [advance_between, hereOnLine?_between, advance_between,
    List.append_assoc]
  rfl

/-- A listed plain sign is scanned as its kind. -/
theorem otherSign_of_mem_plainSigns
    {character : Char}
    {kind : TokenKind}
    (member : (character, kind) ∈ plainSigns)
    (cursor : Cursor)
    (position : Position) :
    otherSign cursor ⟨character, position⟩ =
      sign cursor ⟨character, position⟩ kind := by
  have each :
      ∀ entry ∈ plainSigns,
        otherSign cursor ⟨entry.1, position⟩ =
          sign cursor ⟨entry.1, position⟩ entry.2 := by
    simp [plainSigns, otherSign]
  exact each _ member

/-- A sign that may have an equal sign is scanned with its two kinds. -/
theorem otherSign_of_mem_equalSigns
    {character : Char}
    {bare paired : TokenKind}
    (member : (character, bare, paired) ∈ equalSigns)
    (cursor : Cursor)
    (position : Position) :
    otherSign cursor ⟨character, position⟩ =
      signWithEqual cursor ⟨character, position⟩ bare paired := by
  have each :
      ∀ entry ∈ equalSigns,
        otherSign cursor ⟨entry.1, position⟩ =
          signWithEqual cursor ⟨entry.1, position⟩ entry.2.1 entry.2.2 := by
    simp [equalSigns, otherSign]
  exact each _ member

/-- A character that is no sign is scanned as an unknown one. -/
theorem otherSign_of_not_isSign
    {character : Char}
    (notSign : ¬IsSign character)
    (cursor : Cursor)
    (position : Position) :
    otherSign cursor ⟨character, position⟩ =
      sign cursor ⟨character, position⟩ .unknown := by
  have isSign :
      ∀ other ∈ plainSigns.map Prod.fst ++ equalSigns.map Prod.fst,
        IsSign other := by
    intro other member
    rcases List.mem_append.mp member with inPlain | inEqual
    · obtain ⟨entry, entryMember, rfl⟩ := List.mem_map.mp inPlain
      exact isSign_of_mem_plainSigns entryMember
    · obtain ⟨entry, entryMember, rfl⟩ := List.mem_map.mp inEqual
      exact isSign_of_mem_equalSigns entryMember
  unfold otherSign
  split
  all_goals
    first
    | rfl
    | next same =>
        have isThisSign : character = _ := same
        rw [isThisSign] at notSign
        exact absurd (isSign _ (by decide)) notSign

/-- A word is scanned up to the first character that does not continue it. -/
theorem word_between
    {rest behind : List Char}
    (continues : ∀ character ∈ rest, continuesWord character = true)
    (stops : StopsAt continuesWord behind)
    (first : Char) :
    word (between front (first :: (rest ++ behind)))
        ⟨first, ⟨1, front.length + 1⟩⟩ =
      .token
        ⟨wordKind (String.ofList (first :: rest)),
          String.ofList (first :: rest), ⟨1, front.length + 1⟩⟩
        (between (front ++ first :: rest) behind) := by
  unfold word
  rw [advance_between, takeOnLine_between_append _ continues stops,
    List.append_assoc]
  rfl

/-- A point without a digit behind it is given back. -/
theorem number_between_integer
    {digits behind : List Char}
    (areDigits : ∀ digit ∈ digits, digit.isDigit = true)
    (ends : TokenKind.integer.EndsBefore behind)
    (first : Char) :
    number (between front (digits ++ behind))
        ⟨first, ⟨1, front.length + 1⟩⟩ =
      .ok (.token
        ⟨.integer, String.ofList digits, ⟨1, front.length + 1⟩⟩
        (between (front ++ digits) behind)) := by
  unfold number
  dsimp only
  rw [takeOnLine_between_append _ areDigits ends.1]
  dsimp only
  rw [hereOnLine?_between]
  split
  · next pointed =>
      obtain ⟨more, rfl⟩ := List.head?_eq_some_iff.mp pointed
      have noFraction : more.takeWhile Char.isDigit = [] := by
        cases more with
        | nil =>
            rfl
        | cons digit rest =>
            rw [List.takeWhile_cons, ends.2 digit rest rfl]
            rfl
      rw [advance_between, takeOnLine_between, retreat_between, noFraction]
      rfl
  · rfl

/-- Digits around a point are scanned as a floating-point number. -/
theorem number_between_float
    {whole fraction behind : List Char}
    (notEmpty : fraction ≠ [])
    (wholeDigits : ∀ digit ∈ whole, digit.isDigit = true)
    (fractionDigits : ∀ digit ∈ fraction, digit.isDigit = true)
    (stops : StopsAt Char.isDigit behind)
    (first : Char) :
    number (between front (whole ++ '.' :: (fraction ++ behind)))
        ⟨first, ⟨1, front.length + 1⟩⟩ =
      .ok (.token
        ⟨.float, String.ofList (whole ++ '.' :: fraction),
          ⟨1, front.length + 1⟩⟩
        (between (front ++ (whole ++ '.' :: fraction)) behind)) := by
  have hasFraction : fraction.isEmpty = false := by
    rwa [List.isEmpty_eq_false_iff]
  unfold number
  dsimp only
  rw [takeOnLine_between_append _ wholeDigits (stopsAt_point _)]
  dsimp only
  rw [hereOnLine?_between, if_pos (List.head?_cons ..), advance_between,
    takeOnLine_between_append _ fractionDigits stops]
  dsimp only
  rw [hasFraction]
  simp only [List.append_assoc, List.cons_append, List.nil_append]
  rfl

/-- What a backslash and a character stand for is unescaped. -/
theorem unescape_of_standsFor
    {letter character : Char}
    (standsFor : StandsFor letter character) :
    unescape letter = character := by
  cases standsFor with
  | lineFeed =>
      rfl
  | tab =>
      rfl
  | carriageReturn =>
      rfl
  | itself notLineFeed notTab notReturn =>
      rw [unescape, if_neg notLineFeed, if_neg notTab, if_neg notReturn]

/-- A letter behind a backslash stands for what it is decoded to. -/
theorem standsFor_unescape (letter : Char) :
    StandsFor letter (unescape letter) := by
  unfold unescape
  split
  · next isLineFeed =>
      rw [isLineFeed]
      exact .lineFeed
  · next notLineFeed =>
      split
      · next isTab =>
          rw [isTab]
          exact .tab
      · next notTab =>
          split
          · next isReturn =>
              rw [isReturn]
              exact .carriageReturn
          · next notReturn =>
              exact .itself notLineFeed notTab notReturn

/-- The rest of a string is decoded character by character. -/
theorem stringRest_charactersFrom_cons
    (decoded : List Char)
    (passed : List SourceCharacter)
    (column : Nat)
    (first : Char)
    (rest : List Char) :
    stringRest 1 decoded passed (charactersFrom column (first :: rest)) =
      if first = '"' then
        some (decoded.reverse, ⟨first, ⟨1, column⟩⟩ :: passed,
          charactersFrom (column + 1) rest)
      else if first = '\\' then
        match rest with
        | [] => none
        | letter :: behind =>
            stringRest 1 (unescape letter :: decoded)
              (⟨letter, ⟨1, column + 1⟩⟩ :: ⟨first, ⟨1, column⟩⟩ :: passed)
              (charactersFrom (column + 1 + 1) behind)
      else
        stringRest 1 (first :: decoded) (⟨first, ⟨1, column⟩⟩ :: passed)
          (charactersFrom (column + 1) rest) := by
  rw [charactersFrom, Surroundings.stringRest_cons]
  cases rest with
  | nil =>
      rfl
  | cons letter behind =>
      rfl

/-- A string is read up to the first quote that can close it. -/
theorem stringRest_of_decodes
    {body text : List Char}
    (decodes : Decodes body text)
    (column : Nat)
    (decoded behind : List Char)
    (passed : List SourceCharacter) :
    stringRest 1 decoded passed
        (charactersFrom column (body ++ '"' :: behind)) =
      some (decoded.reverse ++ text,
        (charactersFrom column (body ++ ['"'])).reverse ++ passed,
        charactersFrom (column + (body ++ ['"']).length) behind) := by
  induction decodes generalizing column decoded passed with
  | nothing =>
      rw [List.append_nil, List.nil_append, stringRest_charactersFrom_cons]
      rfl
  | @plain character body text notQuote notBackslash rest hypothesis =>
      rw [List.cons_append, stringRest_charactersFrom_cons, if_neg notQuote,
        if_neg notBackslash, hypothesis]
      simp [charactersFrom, Nat.add_comm, Nat.add_left_comm]
  | @escaped letter character body text standsFor rest hypothesis =>
      rw [List.cons_append, stringRest_charactersFrom_cons]
      dsimp only [List.cons_append]
      rw [hypothesis, unescape_of_standsFor standsFor]
      simp [charactersFrom, Nat.add_comm, Nat.add_left_comm]

/-- What is read as a string has a quote that closes it. -/
theorem exists_decodes_of_stringRest
    {column : Nat}
    {decoded rest : List Char}
    {passed : List SourceCharacter}
    {found : List Char × List SourceCharacter × List SourceCharacter}
    (closed :
      stringRest 1 decoded passed (charactersFrom column rest) = some found) :
    ∃ body text behind, Decodes body text ∧ rest = body ++ '"' :: behind := by
  induction length : rest.length using Nat.strongRecOn
    generalizing column decoded rest passed with
  | ind size hypothesis =>
      cases rest with
      | nil =>
          cases closed
      | cons first rest =>
          rw [stringRest_charactersFrom_cons] at closed
          rw [← length] at hypothesis
          split at closed
          · next isQuote =>
              exact ⟨[], [], rest, .nothing, by rw [isQuote]; rfl⟩
          · next notQuote =>
              split at closed
              · next isBackslash =>
                  cases rest with
                  | nil =>
                      cases closed
                  | cons letter rest =>
                      obtain ⟨body, text, behind, decodes, rfl⟩ :=
                        hypothesis _ (Nat.lt_add_of_pos_right (k := 2) Nat.zero_lt_two)
                          closed rfl
                      refine ⟨_, _, behind,
                        .escaped (standsFor_unescape letter) decodes, ?_⟩
                      rw [isBackslash]
                      rfl
              · next notBackslash =>
                  obtain ⟨body, text, behind, decodes, rfl⟩ :=
                    hypothesis _ (Nat.lt_succ_self _) closed rfl
                  exact ⟨_, _, behind, .plain notQuote notBackslash decodes,
                    rfl⟩

/-- A string that is closed is scanned as the text it decodes to. -/
theorem string_between
    {body text : List Char}
    (decodes : Decodes body text)
    (behind : List Char) :
    string (between front ('"' :: (body ++ '"' :: behind)))
        ⟨'"', ⟨1, front.length + 1⟩⟩ =
      .ok (.token
        ⟨.string, String.ofList text, ⟨1, front.length + 1⟩⟩
        (between (front ++ '"' :: (body ++ ['"'])) behind)) := by
  have closed :=
    stringRest_of_decodes decodes (front.length + 1 + 1) [] behind
      (⟨'"', ⟨1, front.length + 1⟩⟩ :: (charactersFrom 1 front).reverse)
  rw [between_append]
  unfold string
  dsimp only [between, charactersFrom, advance]
  rw [closed]
  simp only [List.reverse_nil, List.nil_append, List.reverse_cons,
    List.append_assoc, List.length_cons, List.cons_append]
  rw [Nat.add_assoc (front.length + 1), Nat.add_comm 1]

/-- A string that is never closed is refused at its quote. -/
theorem string_between_of_neverClosed
    {rest : List Char}
    (neverClosed :
      ∀ body text behind : List Char,
        Decodes body text → rest ≠ body ++ '"' :: behind) :
    string (between front ('"' :: rest)) ⟨'"', ⟨1, front.length + 1⟩⟩ =
      .error (unterminatedString ⟨1, front.length + 1⟩) := by
  unfold string
  dsimp only [between, charactersFrom, advance]
  cases closed :
      stringRest 1 []
        (⟨'"', ⟨1, front.length + 1⟩⟩ :: (charactersFrom 1 front).reverse)
        (charactersFrom (front.length + 1 + 1) rest) with
  | none =>
      rfl
  | some found =>
      obtain ⟨body, text, behind, decodes, same⟩ :=
        exists_decodes_of_stringRest closed
      exact absurd same (neverClosed body text behind decodes)

/-- A slash without another one behind it is a sign. -/
theorem slash_between
    {behind : List Char}
    (stops : StopsAt (· == '/') behind) :
    slash (between front ('/' :: behind)) ⟨'/', ⟨1, front.length + 1⟩⟩ =
      .ok (.token ⟨.slash, String.ofList ['/'], ⟨1, front.length + 1⟩⟩
        (between (front ++ ['/']) behind)) := by
  have notSlash : behind.head? ≠ some '/' := by
    intro isSlash
    cases stops '/' isSlash
  unfold slash
  dsimp only
  rw [advance_between, hereOnLine?_between, if_neg notSlash, retreat_between]
  exact congrArg Except.ok (sign_between front .slash '/' behind)

/-- A comment is passed to the end of the text. -/
theorem slash_between_comment (rest : List Char) :
    slash (between front ('/' :: '/' :: rest)) ⟨'/', ⟨1, front.length + 1⟩⟩ =
      .ok (.skipped (between (front ++ '/' :: '/' :: rest) [])) := by
  have passed :=
    advanceWhile_between (front ++ ['/']) (fun _ => true) ('/' :: rest)
  have everything :=
    @takeWhile_dropWhile_of_stopsAt (fun _ => true) ('/' :: rest) []
      (fun _ _ => rfl) nofun
  rw [List.append_nil] at everything
  simp only [Bool.and_true, everything.1, everything.2, List.append_assoc]
    at passed
  unfold slash
  dsimp only
  rw [advance_between, hereOnLine?_between, if_pos (List.head?_cons ..),
    passed]
  rfl

/-- What begins a word is scanned as a word. -/
theorem element_of_beginsWord
    {cursor : Cursor}
    {here : SourceCharacter}
    (begins : beginsWord here.value = true) :
    element cursor here = .ok (word cursor here) := by
  obtain ⟨notBlank, _, notSlash, _⟩ := classes_of_beginsWord begins
  rw [element, notBlank, begins, if_neg notSlash]
  rfl

/-- A digit is scanned as a number. -/
theorem element_of_isDigit
    {cursor : Cursor}
    {here : SourceCharacter}
    (isDigit : here.value.isDigit = true) :
    element cursor here = number cursor here := by
  obtain ⟨notBlank, beginsNoWord, notSlash, _⟩ := classes_of_isDigit isDigit
  rw [element, notBlank, beginsNoWord, isDigit, if_neg notSlash]
  rfl

/-- What begins nothing else is scanned as a sign. -/
theorem element_of_otherSign
    {cursor : Cursor}
    {here : SourceCharacter}
    (notBlank : Text.isBlank here.value = false)
    (beginsNoWord : beginsWord here.value = false)
    (notDigit : here.value.isDigit = false)
    (notQuote : here.value ≠ '"')
    (notSlash : here.value ≠ '/') :
    element cursor here = .ok (otherSign cursor here) := by
  rw [element, notBlank, beginsNoWord, notDigit, if_neg notQuote,
    if_neg notSlash]
  rfl

/-- A listed plain sign is an element of its kind. -/
theorem element_of_mem_plainSigns
    {character : Char}
    {kind : TokenKind}
    (member : (character, kind) ∈ plainSigns)
    (cursor : Cursor)
    (position : Position) :
    element cursor ⟨character, position⟩ =
      .ok (sign cursor ⟨character, position⟩ kind) := by
  obtain ⟨notBlank, beginsNoWord, notDigit, notQuote⟩ :=
    classes_of_isSign (isSign_of_mem_plainSigns member)
  have notSlash : ∀ entry ∈ plainSigns, entry.1 ≠ '/' := by
    decide
  rw [element_of_otherSign notBlank beginsNoWord notDigit notQuote
    (notSlash _ member), otherSign_of_mem_plainSigns member]

/-- A sign that may have an equal sign is an element of either kind. -/
theorem element_of_mem_equalSigns
    {character : Char}
    {bare paired : TokenKind}
    (member : (character, bare, paired) ∈ equalSigns)
    (cursor : Cursor)
    (position : Position) :
    element cursor ⟨character, position⟩ =
      .ok (signWithEqual cursor ⟨character, position⟩ bare paired) := by
  obtain ⟨notBlank, beginsNoWord, notDigit, notQuote⟩ :=
    classes_of_isSign (isSign_of_mem_equalSigns member)
  have notSlash : ∀ entry ∈ equalSigns, entry.1 ≠ '/' := by
    decide
  rw [element_of_otherSign notBlank beginsNoWord notDigit notQuote
    (notSlash _ member), otherSign_of_mem_equalSigns member]

/-- The scanner takes the span that is next. -/
theorem element_of_isSpan
    {kind : TokenKind}
    {lexeme span behind : List Char}
    {first : Char}
    (isSpan : IsSpan kind lexeme span)
    (ends : kind.EndsBefore behind)
    (isFirst : span.head? = some first) :
    element (between front (span ++ behind))
        ⟨first, ⟨1, front.length + 1⟩⟩ =
      .ok (.token ⟨kind, String.ofList lexeme, ⟨1, front.length + 1⟩⟩
        (between (front ++ span) behind)) := by
  cases isSpan with
  | @identifier start rest begins continues noKeyword =>
      cases isFirst
      rw [element_of_beginsWord begins, List.cons_append,
        word_between front continues ends, wordKind_of_noKeyword noKeyword]
  | keyword word =>
      obtain ⟨start, rest, spelled, begins, continues⟩ := word.exists_spelling
      have kind := wordKind_spelling word
      rw [← @String.ofList_toList word.spelling] at kind
      rw [spelled] at isFirst kind ⊢
      cases isFirst
      rw [element_of_beginsWord begins, List.cons_append,
        word_between front continues ends, kind]
  | integer notEmpty areDigits =>
      have isDigit := areDigits first (List.mem_of_head? isFirst)
      rw [element_of_isDigit isDigit,
        number_between_integer front areDigits ends]
  | @float whole fraction wholeNotEmpty notEmpty wholeDigits
      fractionDigits =>
      obtain ⟨start, rest, rfl⟩ := List.exists_cons_of_ne_nil wholeNotEmpty
      cases isFirst
      have isDigit := wholeDigits first (List.mem_cons_self ..)
      rw [element_of_isDigit isDigit, List.append_assoc]
      exact number_between_float front notEmpty wholeDigits fractionDigits
        ends first
  | @string body text decodes =>
      cases isFirst
      rw [List.cons_append, List.cons_append, List.append_assoc]
      exact string_between front decodes behind
  | slash =>
      cases isFirst
      exact slash_between front ends
  | plainSign member =>
      cases isFirst
      rw [element_of_mem_plainSigns member]
      exact congrArg Except.ok (sign_between front _ first behind)
  | bareSign member =>
      cases isFirst
      have stops := (endsBefore_of_mem_equalSigns member behind).1.mp ends
      rw [element_of_mem_equalSigns member]
      exact congrArg Except.ok
        (signWithEqual_between_bare front stops _ _ first)
  | pairedSign member =>
      cases isFirst
      rw [element_of_mem_equalSigns member]
      exact congrArg Except.ok
        (signWithEqual_between_paired front _ _ first behind)
  | unknown notBlank beginsNoWord notDigit notQuote notSign =>
      cases isFirst
      have notSlash : first ≠ '/' := fun isSlash => notSign (Or.inl isSlash)
      rw [element_of_otherSign notBlank beginsNoWord notDigit notQuote
        notSlash, otherSign_of_not_isSign notSign]
      exact congrArg Except.ok (sign_between front _ first behind)

/-- A blank is skipped. -/
theorem element_of_isBlank
    {first : Char}
    (isBlank : Text.isBlank first = true)
    (rest : List Char) :
    element (between front (first :: rest))
        ⟨first, ⟨1, front.length + 1⟩⟩ =
      .ok (.skipped (between (front ++ [first]) rest)) := by
  rw [element, if_pos isBlank, advance_between]

end Scan

end OwlScript
