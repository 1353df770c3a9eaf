import Mathlib.Data.List.TakeWhile
import OwlScript.Proofs.Text.CharacterClasses

namespace OwlScript

/-!
# Spans of tokens

The characters that a token takes in a text are its span.  Which spans there
are is said here kind by kind, and what may stand directly behind a span so
that it could not have been longer.  Nothing here speaks of a scanner.  Behind
blank characters, every text goes on with the span of some token, unless there
is a comment or a quote that is never closed.
-/

/-- The signs that go together with no character behind them. -/
def plainSigns : List (Char × TokenKind) :=
  [('(', .leftParenthesis), (')', .rightParenthesis),
    ('\x7b', .leftBrace), ('\x7d', .rightBrace),
    (',', .comma), (';', .semicolon),
    ('+', .plus), ('-', .minus), ('*', .star), ('%', .percent)]

/-- The signs alone, and with an equals sign directly behind them. -/
def equalSigns : List (Char × TokenKind × TokenKind) :=
  [('=', .assign, .equalEqual), ('!', .bang, .bangEqual),
    ('<', .less, .lessEqual), ('>', .greater, .greaterEqual)]

/-- Whether the character is a sign that some token other than an unknown one
begins with. -/
def IsSign (character : Char) : Prop :=
  character = '/' ∨ (∃ kind, (character, kind) ∈ plainSigns) ∨
    ∃ bare paired, (character, bare, paired) ∈ equalSigns

/-- What a character behind a backslash stands for together with it. -/
inductive StandsFor : Char → Char → Prop where
  | lineFeed : StandsFor 'n' '\n'
  | tab : StandsFor 't' '\t'
  | carriageReturn : StandsFor 'r' '\r'
  | itself
      {character : Char}
      (notLineFeed : character ≠ 'n')
      (notTab : character ≠ 't')
      (notReturn : character ≠ 'r') :
      StandsFor character character

/--
What stands between the quotes of a string, and the text it stands for.  A
quote belongs to it only behind a backslash, and so does a backslash.
-/
inductive Decodes : List Char → List Char → Prop where
  | nothing : Decodes [] []
  | plain
      {character : Char}
      {body text : List Char}
      (notQuote : character ≠ '"')
      (notBackslash : character ≠ '\\')
      (rest : Decodes body text) :
      Decodes (character :: body) (character :: text)
  | escaped
      {letter character : Char}
      {body text : List Char}
      (standsFor : StandsFor letter character)
      (rest : Decodes body text) :
      Decodes ('\\' :: letter :: body) (character :: text)

/-- A token of a kind with a lexeme, and the span that it may take. -/
inductive IsSpan : TokenKind → List Char → List Char → Prop where
  | identifier
      {first : Char}
      {rest : List Char}
      (begins : Scan.beginsWord first = true)
      (continues : ∀ character ∈ rest, Scan.continuesWord character = true)
      (noKeyword :
        ∀ word : Keyword, word.spelling ≠ String.ofList (first :: rest)) :
      IsSpan .identifier (first :: rest) (first :: rest)
  | keyword
      (word : Keyword) :
      IsSpan (.keyword word) word.spelling.toList word.spelling.toList
  | integer
      {digits : List Char}
      (notEmpty : digits ≠ [])
      (areDigits : ∀ digit ∈ digits, digit.isDigit = true) :
      IsSpan .integer digits digits
  | float
      {whole fraction : List Char}
      (wholeNotEmpty : whole ≠ [])
      (fractionNotEmpty : fraction ≠ [])
      (wholeDigits : ∀ digit ∈ whole, digit.isDigit = true)
      (fractionDigits : ∀ digit ∈ fraction, digit.isDigit = true) :
      IsSpan .float (whole ++ '.' :: fraction) (whole ++ '.' :: fraction)
  | string
      {body text : List Char}
      (decodes : Decodes body text) :
      IsSpan .string text ('"' :: body ++ ['"'])
  | slash :
      IsSpan .slash ['/'] ['/']
  | plainSign
      {character : Char}
      {kind : TokenKind}
      (member : (character, kind) ∈ plainSigns) :
      IsSpan kind [character] [character]
  | bareSign
      {character : Char}
      {bare paired : TokenKind}
      (member : (character, bare, paired) ∈ equalSigns) :
      IsSpan bare [character] [character]
  | pairedSign
      {character : Char}
      {bare paired : TokenKind}
      (member : (character, bare, paired) ∈ equalSigns) :
      IsSpan paired [character, '='] [character, '=']
  | unknown
      {character : Char}
      (notBlank : Text.isBlank character = false)
      (beginsNoWord : Scan.beginsWord character = false)
      (notDigit : character.isDigit = false)
      (notQuote : character ≠ '"')
      (notSign : ¬IsSign character) :
      IsSpan .unknown [character] [character]

/-- Whether the first of the characters, if there is one, fails a condition. -/
def StopsAt (condition : Char → Bool) (behind : List Char) : Prop :=
  ∀ character ∈ behind.head?, condition character = false

/-- Whether a token of the kind could not have gone on into what is behind. -/
def TokenKind.EndsBefore (kind : TokenKind) (behind : List Char) : Prop :=
  match kind with
  | .identifier => StopsAt Scan.continuesWord behind
  | .keyword _ => StopsAt Scan.continuesWord behind
  | .integer =>
      StopsAt Char.isDigit behind ∧
        ∀ digit rest, behind = '.' :: digit :: rest → digit.isDigit = false
  | .float => StopsAt Char.isDigit behind
  | .assign => StopsAt (· == '=') behind
  | .bang => StopsAt (· == '=') behind
  | .less => StopsAt (· == '=') behind
  | .greater => StopsAt (· == '=') behind
  | .slash => StopsAt (· == '/') behind
  | _ => True

/-- Behind all characters that have a condition there is none that has it. -/
theorem stopsAt_dropWhile
    (condition : Char → Bool)
    (characters : List Char) :
    StopsAt condition (characters.dropWhile condition) := by
  intro character first
  have notHolds := List.head?_dropWhile_not condition characters
  rw [Option.mem_def.mp first] at notHolds
  exact notHolds

/-- Where a character goes on, it is the first of what is behind. -/
theorem exists_cons_of_not_stopsAt
    {character : Char}
    {behind : List Char}
    (goesOn : ¬StopsAt (· == character) behind) :
    ∃ more, behind = character :: more := by
  cases behind with
  | nil =>
      exact (goesOn nofun).elim
  | cons first rest =>
      by_cases same : first = character
      · exact ⟨rest, by rw [same]⟩
      · refine (goesOn ?_).elim
        intro other isFirst
        cases isFirst
        exact beq_eq_false_iff_ne.mpr same

/-- What all characters of a front satisfy ends where it is failed. -/
theorem takeWhile_dropWhile_of_stopsAt
    {condition : Char → Bool}
    {front behind : List Char}
    (holds : ∀ character ∈ front, condition character = true)
    (stops : StopsAt condition behind) :
    (front ++ behind).takeWhile condition = front ∧
      (front ++ behind).dropWhile condition = behind := by
  have nothing :
      behind.takeWhile condition = [] ∧ behind.dropWhile condition = behind := by
    cases behind with
    | nil =>
        exact ⟨rfl, rfl⟩
    | cons first rest =>
        have failed : condition first = false := stops first rfl
        rw [List.takeWhile_cons, List.dropWhile_cons, failed]
        exact ⟨rfl, rfl⟩
  rw [List.takeWhile_append_of_pos holds, List.dropWhile_append_of_pos holds,
    nothing.1, nothing.2, List.append_nil]
  exact ⟨rfl, rfl⟩

/-- Digits stop in front of a point. -/
theorem stopsAt_point (behind : List Char) :
    StopsAt Char.isDigit ('.' :: behind) := by
  intro character isFirst
  cases isFirst
  rfl

/-- The spelling of a keyword is looked up as that keyword. -/
theorem Keyword.ofSpelling?_spelling (word : Keyword) :
    Keyword.ofSpelling? word.spelling = some word := by
  cases word <;> rfl

/-- A keyword that is looked up has the spelling it was looked up by. -/
theorem Keyword.spelling_of_ofSpelling?
    {word : Keyword}
    {spelling : String}
    (found : Keyword.ofSpelling? spelling = some word) :
    word.spelling = spelling := by
  simpa using List.find?_some found

/-- Every keyword is a word. -/
theorem Keyword.exists_spelling (word : Keyword) :
    ∃ first rest, word.spelling.toList = first :: rest ∧
      Scan.beginsWord first = true ∧
        ∀ character ∈ rest, Scan.continuesWord character = true := by
  cases word <;> exact ⟨_, _, rfl, rfl, List.all_eq_true.mp rfl⟩

/-- The spelling of a keyword is of that keyword's kind. -/
theorem Scan.wordKind_spelling (word : Keyword) :
    Scan.wordKind word.spelling = .keyword word := by
  rw [Scan.wordKind, Keyword.ofSpelling?_spelling]

/-- A word that spells no keyword is an identifier. -/
theorem Scan.wordKind_of_noKeyword
    {text : String}
    (noKeyword : ∀ word : Keyword, word.spelling ≠ text) :
    Scan.wordKind text = .identifier := by
  unfold Scan.wordKind
  cases found : Keyword.ofSpelling? text with
  | none =>
      rfl
  | some word =>
      exact absurd (Keyword.spelling_of_ofSpelling? found) (noKeyword word)

/-- What begins a word also goes on with one. -/
theorem Scan.continuesWord_of_beginsWord
    {character : Char}
    (begins : Scan.beginsWord character = true) :
    Scan.continuesWord character = true := by
  unfold Scan.beginsWord at begins
  unfold Scan.continuesWord Text.isAlphanumeric
  rw [Bool.or_eq_true] at begins ⊢
  exact begins.imp_left fun alphabetic => by rw [alphabetic, Bool.true_or]

/-- A word is the span of a keyword or of an identifier. -/
theorem isSpan_word
    {first : Char}
    {rest : List Char}
    (begins : Scan.beginsWord first = true)
    (continues : ∀ character ∈ rest, Scan.continuesWord character = true) :
    IsSpan (Scan.wordKind (String.ofList (first :: rest))) (first :: rest)
      (first :: rest) := by
  unfold Scan.wordKind
  cases found : Keyword.ofSpelling? (String.ofList (first :: rest)) with
  | none =>
      apply IsSpan.identifier begins continues
      intro word same
      rw [← same, Keyword.ofSpelling?_spelling] at found
      cases found
  | some word =>
      have spelled := Keyword.spelling_of_ofSpelling? found
      have isSpan := IsSpan.keyword word
      rw [spelled, String.toList_ofList] at isSpan
      exact isSpan

/-- A word ends where nothing goes on with it, whatever its kind. -/
theorem wordKind_endsBefore_iff
    (word : String)
    (behind : List Char) :
    (Scan.wordKind word).EndsBefore behind ↔
      StopsAt Scan.continuesWord behind := by
  unfold Scan.wordKind
  cases Keyword.ofSpelling? word with
  | none =>
      exact Iff.rfl
  | some keyword =>
      exact Iff.rfl

/-- A plain sign is a sign. -/
theorem isSign_of_mem_plainSigns
    {character : Char}
    {kind : TokenKind}
    (member : (character, kind) ∈ plainSigns) :
    IsSign character :=
  Or.inr (Or.inl ⟨kind, member⟩)

/-- A sign that may have an equal sign behind it is a sign. -/
theorem isSign_of_mem_equalSigns
    {character : Char}
    {bare paired : TokenKind}
    (member : (character, bare, paired) ∈ equalSigns) :
    IsSign character :=
  Or.inr (Or.inr ⟨bare, paired, member⟩)

/-- A sign that goes together with nothing ends before anything. -/
theorem endsBefore_of_mem_plainSigns
    {character : Char}
    {kind : TokenKind}
    (member : (character, kind) ∈ plainSigns)
    (behind : List Char) :
    kind.EndsBefore behind := by
  have each : ∀ entry ∈ plainSigns, entry.2.EndsBefore behind := by
    simp [plainSigns, TokenKind.EndsBefore]
  exact each _ member

/-- An equals sign goes on with a bare sign, and nothing with a paired one. -/
theorem endsBefore_of_mem_equalSigns
    {character : Char}
    {bare paired : TokenKind}
    (member : (character, bare, paired) ∈ equalSigns)
    (behind : List Char) :
    (bare.EndsBefore behind ↔ StopsAt (· == '=') behind) ∧
      paired.EndsBefore behind := by
  have each :
      ∀ entry ∈ equalSigns,
        (entry.2.1.EndsBefore behind ↔ StopsAt (· == '=') behind) ∧
          entry.2.2.EndsBefore behind := by
    simp [equalSigns, TokenKind.EndsBefore]
  exact each _ member

/-- What the signs that begin some token are not. -/
theorem classes_of_isSign
    {character : Char}
    (isSign : IsSign character) :
    Text.isBlank character = false ∧ Scan.beginsWord character = false ∧
      character.isDigit = false ∧ character ≠ '"' := by
  have plain :
      ∀ entry ∈ plainSigns,
        Text.isBlank entry.1 = false ∧ Scan.beginsWord entry.1 = false ∧
          entry.1.isDigit = false ∧ entry.1 ≠ '"' := by
    decide +kernel
  have equal :
      ∀ entry ∈ equalSigns,
        Text.isBlank entry.1 = false ∧ Scan.beginsWord entry.1 = false ∧
          entry.1.isDigit = false ∧ entry.1 ≠ '"' := by
    decide +kernel
  rcases isSign with rfl | ⟨kind, member⟩ | ⟨bare, paired, member⟩
  · decide +kernel
  · exact plain _ member
  · exact equal _ member

/-- A span begins with a character that is not blank. -/
theorem IsSpan.exists_cons
    {kind : TokenKind}
    {lexeme span : List Char}
    (isSpan : IsSpan kind lexeme span) :
    ∃ first rest, span = first :: rest ∧ Text.isBlank first = false := by
  cases isSpan with
  | identifier begins continues noKeyword =>
      exact ⟨_, _, rfl, (Scan.classes_of_beginsWord begins).1⟩
  | keyword word =>
      obtain ⟨first, rest, spelled, begins, _⟩ := word.exists_spelling
      exact ⟨first, rest, spelled, (Scan.classes_of_beginsWord begins).1⟩
  | integer notEmpty areDigits =>
      obtain ⟨first, rest, rfl⟩ := List.exists_cons_of_ne_nil notEmpty
      have isDigit := areDigits first (List.mem_cons_self ..)
      exact ⟨first, rest, rfl, (Scan.classes_of_isDigit isDigit).1⟩
  | float wholeNotEmpty fractionNotEmpty wholeDigits fractionDigits =>
      obtain ⟨first, rest, rfl⟩ := List.exists_cons_of_ne_nil wholeNotEmpty
      have isDigit := wholeDigits first (List.mem_cons_self ..)
      exact ⟨first, _, rfl, (Scan.classes_of_isDigit isDigit).1⟩
  | string decodes =>
      exact ⟨_, _, rfl, rfl⟩
  | slash =>
      exact ⟨_, _, rfl, rfl⟩
  | plainSign member =>
      have isSign := isSign_of_mem_plainSigns member
      exact ⟨_, _, rfl, (classes_of_isSign isSign).1⟩
  | bareSign member =>
      have isSign := isSign_of_mem_equalSigns member
      exact ⟨_, _, rfl, (classes_of_isSign isSign).1⟩
  | pairedSign member =>
      have isSign := isSign_of_mem_equalSigns member
      exact ⟨_, _, rfl, (classes_of_isSign isSign).1⟩
  | unknown notBlank beginsNoWord notDigit notQuote notSign =>
      exact ⟨_, _, rfl, notBlank⟩

/-- The end of a script takes no characters, and no span is one. -/
theorem IsSpan.kind_ne_endOfInput
    {kind : TokenKind}
    {lexeme span : List Char}
    (isSpan : IsSpan kind lexeme span) :
    kind ≠ .endOfInput := by
  have plain : ∀ entry ∈ plainSigns, entry.2 ≠ .endOfInput := by
    decide
  have equal :
      ∀ entry ∈ equalSigns,
        entry.2.1 ≠ .endOfInput ∧ entry.2.2 ≠ .endOfInput := by
    decide
  cases isSpan with
  | plainSign member =>
      exact plain _ member
  | bareSign member =>
      exact (equal _ member).1
  | pairedSign member =>
      exact (equal _ member).2
  | _ =>
      exact nofun

/-- What a text that is not empty begins with. -/
inductive Beginning : List Char → Prop where
  | blank
      {character : Char}
      (isBlank : Text.isBlank character = true)
      (rest : List Char) :
      Beginning (character :: rest)
  | comment
      (rest : List Char) :
      Beginning ('/' :: '/' :: rest)
  | token
      {kind : TokenKind}
      {lexeme span behind : List Char}
      (isSpan : IsSpan kind lexeme span)
      (ends : kind.EndsBefore behind) :
      Beginning (span ++ behind)
  | openString
      {rest : List Char}
      (neverClosed :
        ∀ body text behind : List Char,
          Decodes body text → rest ≠ body ++ '"' :: behind) :
      Beginning ('"' :: rest)

/-- A text that begins like a word begins with a token. -/
theorem beginning_of_beginsWord
    {first : Char}
    (begins : Scan.beginsWord first = true)
    (rest : List Char) :
    Beginning (first :: rest) := by
  have continues :
      ∀ character ∈ rest.takeWhile Scan.continuesWord,
        Scan.continuesWord character = true :=
    fun _ => List.mem_takeWhile_imp
  have isSpan := isSpan_word begins continues
  have beginning :=
    Beginning.token isSpan
      ((wordKind_endsBefore_iff _ _).mpr
        (stopsAt_dropWhile Scan.continuesWord rest))
  rw [List.cons_append, List.takeWhile_append_dropWhile] at beginning
  exact beginning

/-- A text that begins with a digit begins with a token. -/
theorem beginning_of_isDigit
    {first : Char}
    (isDigit : first.isDigit = true)
    (rest : List Char) :
    Beginning (first :: rest) := by
  have whole :
      (first :: rest).takeWhile Char.isDigit ++
        (first :: rest).dropWhile Char.isDigit = first :: rest :=
    List.takeWhile_append_dropWhile
  have wholeDigits :
      ∀ digit ∈ (first :: rest).takeWhile Char.isDigit,
        digit.isDigit = true :=
    fun _ member => List.mem_takeWhile_imp member
  have notEmpty : (first :: rest).takeWhile Char.isDigit ≠ [] := by
    rw [List.takeWhile_cons, isDigit]
    exact nofun
  have stops := stopsAt_dropWhile Char.isDigit (first :: rest)
  rw [← whole]
  by_cases pointed :
      ∃ digit more, (first :: rest).dropWhile Char.isDigit =
        '.' :: digit :: more ∧ digit.isDigit = true
  · obtain ⟨digit, more, behind, digitIsDigit⟩ := pointed
    have fraction :
        (digit :: more).takeWhile Char.isDigit ++
          (digit :: more).dropWhile Char.isDigit = digit :: more :=
      List.takeWhile_append_dropWhile
    have fractionNotEmpty :
        (digit :: more).takeWhile Char.isDigit ≠ [] := by
      rw [List.takeWhile_cons, digitIsDigit]
      exact nofun
    have isSpan :=
      IsSpan.float notEmpty fractionNotEmpty wholeDigits
        fun _ member => List.mem_takeWhile_imp member
    have beginning :=
      Beginning.token isSpan
        (stopsAt_dropWhile Char.isDigit (digit :: more))
    rw [List.append_assoc, List.cons_append, fraction, ← behind] at beginning
    exact beginning
  · refine Beginning.token (IsSpan.integer notEmpty wholeDigits)
      ⟨stops, ?_⟩
    intro digit more behind
    rw [Bool.eq_false_iff]
    intro digitIsDigit
    exact pointed ⟨digit, more, behind, digitIsDigit⟩

/--
A text begins with a token at a sign that may have an equal sign behind it.
-/
theorem beginning_of_equalSign
    {character : Char}
    {bare paired : TokenKind}
    (member : (character, bare, paired) ∈ equalSigns)
    (rest : List Char) :
    Beginning (character :: rest) := by
  by_cases stops : StopsAt (· == '=') rest
  · exact Beginning.token (IsSpan.bareSign member)
      ((endsBefore_of_mem_equalSigns member rest).1.mpr stops)
  · obtain ⟨more, rfl⟩ := exists_cons_of_not_stopsAt stops
    exact Beginning.token (IsSpan.pairedSign member)
      (endsBefore_of_mem_equalSigns member more).2

/-- A text that begins with a slash begins with a token or a comment. -/
theorem beginning_of_slash (rest : List Char) :
    Beginning ('/' :: rest) := by
  by_cases stops : StopsAt (· == '/') rest
  · exact Beginning.token IsSpan.slash stops
  · obtain ⟨more, rfl⟩ := exists_cons_of_not_stopsAt stops
    exact .comment more

/-- A text that begins with a quote begins with a string or an open one. -/
theorem beginning_of_quote (rest : List Char) :
    Beginning ('"' :: rest) := by
  by_cases closed :
      ∃ body text behind, Decodes body text ∧ rest = body ++ '"' :: behind
  · obtain ⟨body, text, behind, decodes, rfl⟩ := closed
    have beginning :=
      @Beginning.token _ _ _ behind (IsSpan.string decodes) trivial
    rw [List.append_assoc] at beginning
    exact beginning
  · apply Beginning.openString
    intro body text behind decodes same
    exact closed ⟨body, text, behind, decodes, same⟩

/-- There is no character that nothing begins with. -/
theorem beginning_of_ne_nil
    {text : List Char}
    (notEmpty : text ≠ []) :
    Beginning text := by
  obtain ⟨first, rest, rfl⟩ := List.exists_cons_of_ne_nil notEmpty
  by_cases isBlank : Text.isBlank first = true
  · exact .blank isBlank rest
  · by_cases begins : Scan.beginsWord first = true
    · exact beginning_of_beginsWord begins rest
    · by_cases isDigit : first.isDigit = true
      · exact beginning_of_isDigit isDigit rest
      · by_cases isQuote : first = '"'
        · rw [isQuote]
          exact beginning_of_quote rest
        · by_cases isSign : IsSign first
          · rcases isSign with rfl | ⟨kind, member⟩ | ⟨bare, paired, member⟩
            · exact beginning_of_slash rest
            · exact Beginning.token (IsSpan.plainSign member)
                (endsBefore_of_mem_plainSigns member rest)
            · exact beginning_of_equalSign member rest
          · rw [Bool.not_eq_true] at isBlank begins isDigit
            exact Beginning.token
              (IsSpan.unknown isBlank begins isDigit isQuote isSign) trivial

end OwlScript
