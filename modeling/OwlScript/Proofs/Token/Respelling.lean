import OwlScript.Proofs.Token.OneLineFile
import OwlScript.Proofs.Token.Partition

namespace OwlScript

/-!
# Respelling

Tokens are spelled again and joined by single spaces.  A space goes on with no
token and is skipped, so that the tokens come back, whatever they are and
whichever stand side by side.
-/

/-- A character as it is written between quotes: escaped if it has to be. -/
def escapeCharacter (character : Char) : List Char :=
  match character with
  | '\\' => ['\\', '\\']
  | '"' => ['\\', '"']
  | '\n' => ['\\', 'n']
  | '\r' => ['\\', 'r']
  | other => [other]

/-- The string literal that stands for a text. -/
def stringLiteral (text : String) : String :=
  String.ofList ('"' :: text.toList.flatMap escapeCharacter ++ ['"'])

namespace Token

/-- The token as it is written in a script. -/
def spelling (token : Token) : String :=
  match token.kind with
  | .string => stringLiteral token.lexeme
  | _ => token.lexeme

/-- The tokens written with single spaces between them. -/
def respelled (tokens : List Token) : String :=
  " ".intercalate (tokens.map spelling)

/-- One token is respelled as its spelling. -/
theorem respelled_singleton (token : Token) :
    respelled [token] = token.spelling :=
  String.intercalate_singleton

/-- Several tokens are respelled with a space behind the first. -/
theorem respelled_cons_cons
    (first next : Token)
    (rest : List Token) :
    respelled (first :: next :: rest) =
      first.spelling ++ " " ++ respelled (next :: rest) :=
  String.intercalate_cons_cons

/-- The tokens where they stand if they are respelled from a column on. -/
def placedFrom (column : Nat) : List Token → List Token
  | [] => []
  | token :: rest =>
      { token with position := ⟨1, column⟩ } ::
        placedFrom (column + token.spelling.length + 1) rest

/-- The tokens that are found in their respelling. -/
def respelledTokens (tokens : List Token) : List Token :=
  placedFrom 1 tokens ++
    [⟨.endOfInput, "", ⟨1, (respelled tokens).length + 1⟩⟩]

/-- The tokens without the end token, which has no spelling. -/
def spelledTokens (tokens : List Token) : List Token :=
  tokens.filter fun token => token.kind != .endOfInput

end Token

/-- What is escaped stands for what it was. -/
theorem decodes_flatMap_escapeCharacter (text : List Char) :
    Decodes (text.flatMap escapeCharacter) text := by
  induction text with
  | nil =>
      exact .nothing
  | cons first rest hypothesis =>
      rw [List.flatMap_cons]
      unfold escapeCharacter
      split
      · exact .escaped (.itself (by decide) (by decide) (by decide)) hypothesis
      · exact .escaped (.itself (by decide) (by decide) (by decide)) hypothesis
      · exact .escaped .lineFeed hypothesis
      · exact .escaped .carriageReturn hypothesis
      · next notBackslash notQuote _ _ =>
          exact .plain notQuote notBackslash hypothesis

/-- A literal of a string is its escaped characters between quotes. -/
theorem toList_stringLiteral (text : String) :
    (stringLiteral text).toList =
      '"' :: text.toList.flatMap escapeCharacter ++ ['"'] :=
  String.toList_ofList

/-- A text without the characters that lines end with. -/
def Unbroken (text : List Char) : Prop :=
  '\n' ∉ text ∧ '\r' ∉ text

instance (text : List Char) : Decidable (Unbroken text) :=
  inferInstanceAs (Decidable ('\n' ∉ text ∧ '\r' ∉ text))

/-- A text is unbroken if both of its parts are. -/
theorem unbroken_append_iff (front behind : List Char) :
    Unbroken (front ++ behind) ↔ Unbroken front ∧ Unbroken behind := by
  simp only [Unbroken, List.mem_append, not_or]
  exact and_and_and_comm

/-- A text is unbroken if a condition holds that line breaks do not have. -/
theorem unbroken_of_forall
    {condition : Char → Bool}
    (notLineFeed : condition '\n' = false)
    (notReturn : condition '\r' = false)
    {text : List Char}
    (holds : ∀ character ∈ text, condition character = true) :
    Unbroken text := by
  constructor
  · intro member
    rw [holds _ member] at notLineFeed
    cases notLineFeed
  · intro member
    rw [holds _ member] at notReturn
    cases notReturn

/-- The escape of a character is unbroken. -/
theorem unbroken_escapeCharacter (character : Char) :
    Unbroken (escapeCharacter character) := by
  unfold escapeCharacter
  split
  · decide
  · decide
  · decide
  · decide
  · next notLineFeed notReturn =>
      simp [Unbroken, Ne.symm notLineFeed, Ne.symm notReturn]

/-- A literal of a string is unbroken. -/
theorem unbroken_stringLiteral (text : String) :
    Unbroken (stringLiteral text).toList := by
  have body : Unbroken (text.toList.flatMap escapeCharacter) := by
    induction text.toList with
    | nil =>
        exact ⟨nofun, nofun⟩
    | cons first rest hypothesis =>
        rw [List.flatMap_cons, unbroken_append_iff]
        exact ⟨unbroken_escapeCharacter first, hypothesis⟩
  have quote : Unbroken ['"'] := by
    decide
  rw [toList_stringLiteral, unbroken_append_iff, ← List.singleton_append,
    unbroken_append_iff]
  exact ⟨⟨quote, body⟩, quote⟩

/-- A span that is no string has no line break in it. -/
theorem IsSpan.unbroken
    {kind : TokenKind}
    {lexeme span : List Char}
    (isSpan : IsSpan kind lexeme span)
    (notString : kind ≠ .string) :
    Unbroken span := by
  obtain ⟨first, rest, rfl, notBlank⟩ := isSpan.exists_cons
  have shape := isSpan.shape rfl
  cases family : familyOf first with
  | word =>
      rw [family] at shape
      exact unbroken_of_forall rfl rfl shape.1
  | number =>
      rw [family] at shape
      rcases shape with
        ⟨_, digits⟩ | ⟨_, whole, fraction, spanned, _, wholeDigits, digits⟩
      · exact unbroken_of_forall rfl rfl digits
      · have point : Unbroken ['.'] := by
          decide
        rw [spanned, unbroken_append_iff, ← List.singleton_append,
          unbroken_append_iff]
        exact ⟨unbroken_of_forall rfl rfl wholeDigits, point,
          unbroken_of_forall rfl rfl digits⟩
  | text =>
      rw [family] at shape
      exact absurd shape.1 notString
  | sign =>
      have unbrokenFirst : Unbroken [first] := by
        constructor
        · intro member
          rw [← List.mem_singleton.mp member] at notBlank
          cases notBlank
        · intro member
          rw [← List.mem_singleton.mp member] at notBlank
          cases notBlank
      rw [family] at shape
      rcases shape with ⟨single, _⟩ | ⟨pair, _⟩
      · rw [single]
        exact unbrokenFirst
      · have equal : Unbroken ['='] := by
          decide
        rw [pair, ← List.singleton_append, unbroken_append_iff]
        exact ⟨unbrokenFirst, equal⟩

/-- The lexeme of a token that is no string is its span. -/
theorem IsSpan.eq_lexeme
    {kind : TokenKind}
    {lexeme span : List Char}
    (isSpan : IsSpan kind lexeme span)
    (notString : kind ≠ .string) :
    span = lexeme := by
  cases isSpan with
  | string decodes =>
      exact absurd rfl notString
  | _ =>
      rfl

namespace Token

/-- A string is spelled as a literal of its text. -/
theorem spelling_of_string
    {token : Token}
    (isString : token.kind = .string) :
    token.spelling = stringLiteral token.lexeme := by
  rw [spelling, isString]

/-- Any other token is spelled as its lexeme. -/
theorem spelling_of_ne_string
    {token : Token}
    (notString : token.kind ≠ .string) :
    token.spelling = token.lexeme := by
  unfold spelling
  split
  · next isString =>
      exact absurd isString notString
  · rfl

/-- A token that had some span has its spelling as a span, without breaks. -/
theorem isSpan_spelling
    {token : Token}
    {span : List Char}
    (isSpan : IsSpan token.kind token.lexeme.toList span) :
    IsSpan token.kind token.lexeme.toList token.spelling.toList ∧
      Unbroken token.spelling.toList := by
  by_cases isString : token.kind = .string
  · have unbroken := unbroken_stringLiteral token.lexeme
    rw [spelling_of_string isString, isString]
    refine ⟨?_, unbroken⟩
    rw [toList_stringLiteral]
    exact .string (decodes_flatMap_escapeCharacter _)
  · rw [isSpan.eq_lexeme isString] at isSpan
    rw [spelling_of_ne_string isString]
    exact ⟨isSpan, isSpan.unbroken isString⟩

end Token

/-- A space goes on with no token, and neither does the end of a text. -/
theorem TokenKind.endsBefore_of_space
    {behind : List Char}
    (space : ∀ character ∈ behind.head?, character = ' ')
    (kind : TokenKind) :
    kind.EndsBefore behind := by
  have stops (condition : Char → Bool) (fails : condition ' ' = false) :
      StopsAt condition behind := by
    intro character isFirst
    rw [space character isFirst]
    exact fails
  unfold TokenKind.EndsBefore
  split
  · exact stops _ rfl
  · exact stops _ rfl
  · refine ⟨stops _ rfl, ?_⟩
    intro digit rest pointed
    have isSpace := space '.' (by rw [pointed]; rfl)
    cases isSpace
  · exact stops _ rfl
  · exact stops _ rfl
  · exact stops _ rfl
  · exact stops _ rfl
  · exact stops _ rfl
  · exact stops _ rfl
  · trivial

namespace Token

/-- A token that is respelled is found where it is placed. -/
theorem splits_of_spelling
    {token : Token}
    {column : Nat}
    {behind : List Char}
    {found : List Token}
    (isSpan :
      IsSpan token.kind token.lexeme.toList token.spelling.toList)
    (space : ∀ character ∈ behind.head?, character = ' ')
    (later : Splits (column + token.spelling.length) behind found) :
    Splits column (token.spelling.toList ++ behind)
      ({ token with position := ⟨1, column⟩ } :: found) := by
  have splits :=
    Splits.of_isSpan isSpan (TokenKind.endsBefore_of_space space token.kind)
      later
  rw [String.ofList_toList] at splits
  exact splits

/-- What is respelled is split into the tokens that were spelled. -/
theorem splits_respelled
    {tokens : List Token}
    (areSpans :
      ∀ token ∈ tokens,
        IsSpan token.kind token.lexeme.toList token.spelling.toList)
    (column : Nat) :
    Splits column (respelled tokens).toList
      (placedFrom column tokens ++
        [⟨.endOfInput, "", ⟨1, column + (respelled tokens).length⟩⟩]) := by
  induction tokens generalizing column with
  | nil =>
      exact .nothing column
  | cons first rest hypothesis =>
      rw [List.forall_mem_cons] at areSpans
      -- A blank stands between two spellings, and none behind the last one.
      cases rest with
      | nil =>
          have nothing : ∀ character ∈ ([] : List Char).head?,
              character = ' ' := by
            intro character isFirst
            cases isFirst
          have only :=
            splits_of_spelling areSpans.1 nothing
              (.nothing (column + first.spelling.length))
          rw [List.append_nil] at only
          rw [respelled_singleton]
          exact only
      | cons next rest =>
          have later :=
            hypothesis areSpans.2 (column + first.spelling.length + 1)
          have spaced :=
            splits_of_spelling areSpans.1
              (fun _ isFirst => by cases isFirst; rfl)
              (@Splits.blank _ ' ' _ _ rfl later)
          have ending :
              column + (respelled (first :: next :: rest)).length =
                column + first.spelling.length + 1 +
                  (respelled (next :: rest)).length := by
            rw [respelled_cons_cons, String.length_append,
              String.length_append]
            simp only [Nat.add_assoc]
            rfl
          rw [ending, respelled_cons_cons]
          simp only [String.toList_append, List.append_assoc]
          exact spaced

/-- Tokens with unbroken spellings are respelled on one line. -/
theorem unbroken_respelled
    {tokens : List Token}
    (unbroken : ∀ token ∈ tokens, Unbroken token.spelling.toList) :
    Unbroken (respelled tokens).toList := by
  induction tokens with
  | nil =>
      decide
  | cons first rest hypothesis =>
      rw [List.forall_mem_cons] at unbroken
      cases rest with
      | nil =>
          rw [respelled_singleton]
          exact unbroken.1
      | cons next rest =>
          have space : Unbroken " ".toList := by
            decide
          rw [respelled_cons_cons, String.toList_append, String.toList_append,
            unbroken_append_iff, unbroken_append_iff]
          exact ⟨⟨unbroken.1, space⟩, hypothesis unbroken.2⟩

end Token

namespace Token

/-- Tokens with spans are found again where they are placed. -/
theorem tokensOfText_of_areSpans
    {tokens : List Token}
    (areSpans :
      ∀ token ∈ tokens,
        IsSpan token.kind token.lexeme.toList token.spelling.toList) :
    tokensOfText (respelled tokens) = .ok (respelledTokens tokens) := by
  rw [tokensOfText_eq_ok_iff_splits, respelledTokens, Nat.add_comm]
  exact splits_respelled areSpans 1

/-- The tokens that are found in a text can be respelled. -/
theorem spellable_of_scanned
    {text : String}
    {found : List Token}
    (scanned : tokensOfText text = .ok found)
    {token : Token}
    (member : token ∈ spelledTokens found) :
    IsSpan token.kind token.lexeme.toList token.spelling.toList ∧
      Unbroken token.spelling.toList := by
  obtain ⟨isFound, notEnd⟩ := List.mem_filter.mp member
  have splits := (tokensOfText_eq_ok_iff_splits text found).mp scanned
  obtain ⟨front, span, behind, _, _, isSpan, _⟩ :=
    splits.exists_span_of_mem isFound (bne_iff_ne.mp notEnd)
  exact isSpan_spelling isSpan

/-- A literal of a string is scanned as that string. -/
theorem tokensOfText_stringLiteral (value : String) :
    tokensOfText (stringLiteral value) =
      .ok
        [⟨.string, value, ⟨1, 1⟩⟩,
          ⟨.endOfInput, "", ⟨1, (stringLiteral value).length + 1⟩⟩] := by
  have areSpans :
      ∀ token ∈ [(⟨.string, value, Position.start⟩ : Token)],
        IsSpan token.kind token.lexeme.toList token.spelling.toList := by
    intro token member
    rw [List.mem_singleton.mp member]
    exact (isSpan_spelling (.string (decodes_flatMap_escapeCharacter _))).1
  have found := tokensOfText_of_areSpans areSpans
  rw [respelledTokens, respelled_singleton] at found
  exact found

end Token

/--
Scanning undoes spelling.  If the tokens of a text are spelled again, with
single spaces between them, then the same kinds and lexemes are found, each
where its spelling begins, in the text as well as in a file of which the text
is the only line.  Every string is the lexeme of its literal.
-/
theorem tokensOfText_respelled
    {text : String}
    {found : List Token}
    (scanned : tokensOfText text = .ok found) :
    tokensOfText (Token.respelled (Token.spelledTokens found)) =
        .ok (Token.respelledTokens (Token.spelledTokens found)) ∧
      (∀ (files : Files) (path ending : String),
        ending ∈ ["", "\n", "\r\n"] →
          files path =
            some
              (Token.respelled (Token.spelledTokens found) ++ ending).toUTF8 →
          tokensOfFile files path =
            .ok (Token.respelledTokens (Token.spelledTokens found))) ∧
        ∀ value : String,
          tokensOfText (stringLiteral value) =
            .ok
              [⟨.string, value, ⟨1, 1⟩⟩,
                ⟨.endOfInput, "", ⟨1, (stringLiteral value).length + 1⟩⟩] := by
  have again :=
    Token.tokensOfText_of_areSpans fun _ member =>
      (Token.spellable_of_scanned scanned member).1
  have unbroken :=
    Token.unbroken_respelled fun _ member =>
      (Token.spellable_of_scanned scanned member).2
  refine ⟨again, ?_, Token.tokensOfText_stringLiteral⟩
  intro files path ending isEnding holds
  rw [tokensOfFile_eq_tokensOfText isEnding unbroken.1 unbroken.2 holds]
  exact again

/--
A quote, a backslash and a line feed in a string are escaped, and tokens that
stood side by side are parted by spaces.
-/
theorem tokensOfText_respelled_points_and_escapes :
    Token.respelled (Token.spelledTokens
        [⟨.integer, "1", ⟨1, 1⟩⟩, ⟨.unknown, ".", ⟨1, 2⟩⟩,
          ⟨.string, "\"\\\n", ⟨1, 3⟩⟩, ⟨.slash, "/", ⟨1, 11⟩⟩,
          ⟨.endOfInput, "", ⟨1, 12⟩⟩]) =
        "1 . \"\\\"\\\\\\n\" /" ∧
      tokensOfText "1 . \"\\\"\\\\\\n\" /" =
        .ok
          [⟨.integer, "1", ⟨1, 1⟩⟩, ⟨.unknown, ".", ⟨1, 3⟩⟩,
            ⟨.string, "\"\\\n", ⟨1, 5⟩⟩, ⟨.slash, "/", ⟨1, 14⟩⟩,
            ⟨.endOfInput, "", ⟨1, 15⟩⟩] ∧
        tokensOfFile
            (fun _ => some ("1 . \"\\\"\\\\\\n\" /" ++ "\r\n").toUTF8)
            "spelled.owl" =
          .ok
            [⟨.integer, "1", ⟨1, 1⟩⟩, ⟨.unknown, ".", ⟨1, 3⟩⟩,
              ⟨.string, "\"\\\n", ⟨1, 5⟩⟩, ⟨.slash, "/", ⟨1, 14⟩⟩,
              ⟨.endOfInput, "", ⟨1, 15⟩⟩] := by
  have computed :
      (tokensOfText "1.\"\\\"\\\\\\n\"/").toOption =
        some
          [⟨.integer, "1", ⟨1, 1⟩⟩, ⟨.unknown, ".", ⟨1, 2⟩⟩,
            ⟨.string, "\"\\\n", ⟨1, 3⟩⟩, ⟨.slash, "/", ⟨1, 11⟩⟩,
            ⟨.endOfInput, "", ⟨1, 12⟩⟩] := by
    decide +kernel
  have again := tokensOfText_respelled (Except.toOption_eq_some_iff.1 computed)
  refine ⟨by decide +kernel, again.1, ?_⟩
  exact again.2.1 _ "spelled.owl" "\r\n" (by decide) rfl

end OwlScript
