import OwlScript.Shell.Command

namespace OwlScript

/-!
# Spaces in command lines

A line cut at every single space can be put together again, so that rule loses
nothing.  The other two rules drop the empty pieces.  What they keep are words
that no space cuts, and a command is made of the words alone: it does not
matter how many spaces stand in front of them, behind them, or between them.
-/

namespace Text

/-- Cutting at separating elements is the splitting of lists. -/
theorem splitAt_eq_splitOnP
    {α : Type}
    (separates : α → Bool)
    (sequence : List α) :
    splitAt separates sequence = sequence.splitOnP separates := by
  induction sequence with
  | nil =>
      rfl
  | cons first rest hypothesis =>
      have unfolded :
          splitAt separates (first :: rest) =
            if separates first then
              [] :: splitAt separates rest
            else
              match splitAt separates rest with
              | [] => [[first]]
              | piece :: later => (first :: piece) :: later :=
        rfl
      rw [unfolded, hypothesis, List.splitOnP_cons_eq_if_modifyHead]
      cases pieces : rest.splitOnP separates with
      | nil =>
          exact absurd pieces (List.splitOnP_ne_nil separates rest)
      | cons piece later =>
          rfl

/-- No piece has a separating element in it. -/
theorem separates_eq_false_of_mem_splitAt
    {α : Type}
    {separates : α → Bool}
    {sequence piece : List α}
    (member : piece ∈ splitAt separates sequence) :
    ∀ element ∈ piece, separates element = false := by
  rw [splitAt_eq_splitOnP] at member
  induction sequence generalizing piece with
  | nil =>
      rw [List.splitOnP_nil, List.mem_singleton] at member
      rw [member]
      exact nofun
  | cons first rest hypothesis =>
      rw [List.splitOnP_cons_eq_if_modifyHead] at member
      by_cases isSeparator : separates first = true
      · rw [if_pos isSeparator] at member
        rcases List.mem_cons.1 member with rfl | inRest
        · exact nofun
        · exact hypothesis inRest
      · rw [if_neg isSeparator] at member
        obtain ⟨opening, later, pieces⟩ :=
          List.exists_cons_of_ne_nil (List.splitOnP_ne_nil separates rest)
        rw [pieces] at member hypothesis
        rcases List.mem_cons.1 member with rfl | inLater
        · exact List.forall_mem_cons.2
            ⟨Bool.not_eq_true _ ▸ isSeparator, hypothesis List.mem_cons_self⟩
        · exact hypothesis (List.mem_cons_of_mem _ inLater)

/-- The pieces between separating characters that are not empty. -/
def wordsOf (separates : Char → Bool) (characters : List Char) : List String :=
  ((splitAt separates characters).map String.ofList).filter (!·.isEmpty)

/-- The word is not empty, and no character in it separates. -/
structure IsWord (separates : Char → Bool) (word : String) : Prop where
  notEmpty : word ≠ ""
  stays : ∀ character ∈ word.toList, separates character = false

variable {separates : Char → Bool}

/-- A word is not empty, and none of its characters separates. -/
theorem isWord_iff {word : String} :
    IsWord separates word ↔
      word ≠ "" ∧ word.toList.all (!separates ·) = true := by
  simp only [List.all_eq_true, Bool.not_eq_true']
  exact ⟨fun isWord => ⟨isWord.1, isWord.2⟩, fun both => ⟨both.1, both.2⟩⟩

instance (word : String) : Decidable (IsWord separates word) :=
  decidable_of_iff _ isWord_iff.symm

/-- A word is one as well where fewer characters separate. -/
theorem IsWord.mono
    {fewer : Char → Bool}
    {word : String}
    (isWord : IsWord separates word)
    (among : ∀ character, fewer character = true → separates character = true) :
    IsWord fewer word where
  notEmpty := isWord.notEmpty
  stays character member := by
    rw [← Bool.not_eq_true]
    intro isSeparator
    have stays := isWord.stays character member
    rw [among character isSeparator] at stays
    cases stays

/-- The words of a text are words. -/
theorem isWord_of_mem_wordsOf
    {characters : List Char}
    {word : String}
    (member : word ∈ wordsOf separates characters) :
    IsWord separates word := by
  obtain ⟨isPiece, notEmpty⟩ := List.mem_filter.1 member
  obtain ⟨piece, inPieces, rfl⟩ := List.mem_map.1 isPiece
  refine ⟨by simpa using notEmpty, ?_⟩
  rw [String.toList_ofList]
  exact separates_eq_false_of_mem_splitAt inPieces

/-- Words on both sides of a separating character are found apart. -/
theorem wordsOf_append_cons
    {separator : Char}
    (isSeparator : separates separator = true)
    (front rest : List Char) :
    wordsOf separates (front ++ separator :: rest) =
      wordsOf separates front ++ wordsOf separates rest := by
  simp only [wordsOf, splitAt_eq_splitOnP]
  rw [List.splitOnP_append_cons front rest isSeparator, List.map_append,
    List.filter_append]

/-- An empty text has no words. -/
theorem wordsOf_nil : wordsOf separates [] = [] := by
  simp [wordsOf]

/-- A word by itself is the only one. -/
theorem wordsOf_toList
    {word : String}
    (isWord : IsWord separates word) :
    wordsOf separates word.toList = [word] := by
  rw [wordsOf, splitAt_eq_splitOnP, List.splitOnP_eq_singleton isWord.stays]
  simp [isWord.notEmpty]

/-- Separating characters in front of a text change no word of it. -/
theorem wordsOf_replicate_append
    {separator : Char}
    (isSeparator : separates separator = true)
    (count : Nat)
    (rest : List Char) :
    wordsOf separates (List.replicate count separator ++ rest) =
      wordsOf separates rest := by
  induction count with
  | zero =>
      rfl
  | succ count hypothesis =>
      have behindFirst :=
        wordsOf_append_cons isSeparator []
          (List.replicate count separator ++ rest)
      rw [wordsOf_nil, List.nil_append, List.nil_append, hypothesis]
        at behindFirst
      exact behindFirst

/-- Separating characters behind a text change no word of it. -/
theorem wordsOf_append_replicate
    {separator : Char}
    (isSeparator : separates separator = true)
    (count : Nat)
    (front : List Char) :
    wordsOf separates (front ++ List.replicate count separator) =
      wordsOf separates front := by
  cases count with
  | zero =>
      rw [List.replicate_zero, List.append_nil]
  | succ count =>
      have noWords :=
        wordsOf_replicate_append isSeparator count []
      rw [List.append_nil, wordsOf_nil] at noWords
      rw [List.replicate_succ, wordsOf_append_cons isSeparator, noWords,
        List.append_nil]

/--
A line with the words in their order, any number of spaces in front of the
first and behind the last, and at least one space between any two.
-/
inductive Padded : List String → List Char → Prop where
  | blank (count : Nat) :
      Padded [] (List.replicate count ' ')
  | lone (front back : Nat) (word : String) :
      Padded [word]
        (List.replicate front ' ' ++ word.toList ++ List.replicate back ' ')
  | more
      (front : Nat)
      (word : String)
      {next : String}
      {later : List String}
      {line : List Char}
      (rest : Padded (next :: later) line) :
      Padded (word :: next :: later)
        (List.replicate front ' ' ++ word.toList ++ ' ' :: line)

/-- The words of a padded line are found whatever the padding is. -/
theorem Padded.wordsOf_eq
    {words : List String}
    {line : List Char}
    (padded : Padded words line)
    (atSpaces : separates ' ' = true)
    (areWords : ∀ word ∈ words, IsWord separates word) :
    wordsOf separates line = words := by
  induction padded with
  | blank count =>
      have noWords := wordsOf_append_replicate atSpaces count []
      rwa [wordsOf_nil] at noWords
  | lone front back word =>
      rw [wordsOf_append_replicate atSpaces, wordsOf_replicate_append atSpaces,
        wordsOf_toList (areWords word List.mem_cons_self)]
  | @more front word next later line rest hypothesis =>
      obtain ⟨isWord, laterAreWords⟩ := List.forall_mem_cons.1 areWords
      rw [wordsOf_append_cons atSpaces, wordsOf_replicate_append atSpaces,
        wordsOf_toList isWord, hypothesis laterAreWords]
      rfl

end Text

namespace SplitRule

/-- Where the rule cuts a line. -/
def separates : SplitRule → Char → Bool
  | .literalSpace => (· == ' ')
  | .spaceRuns => (· == ' ')
  | .whitespace => Text.isBlank

/-- Every rule cuts a line at its spaces. -/
theorem separates_space (rule : SplitRule) : rule.separates ' ' = true := by
  cases rule <;> rfl

/-- The rules cut a line at nothing but blank characters. -/
theorem isBlank_of_separates
    (rule : SplitRule)
    (character : Char)
    (isSeparator : rule.separates character = true) :
    Text.isBlank character = true := by
  have ofSpace (isSpace : (character == ' ') = true) :
      Text.isBlank character = true := by
    rw [beq_iff_eq.1 isSpace]
    rfl
  cases rule with
  | literalSpace =>
      exact ofSpace isSeparator
  | spaceRuns =>
      exact ofSpace isSeparator
  | whitespace =>
      exact isSeparator

/-- Two of the rules give words, and no empty pieces. -/
theorem split_eq_wordsOf
    {rule : SplitRule}
    (collapses : rule ≠ .literalSpace)
    (line : String) :
    rule.split line = Text.wordsOf rule.separates line.toList := by
  cases rule with
  | literalSpace =>
      exact absurd rfl collapses
  | spaceRuns =>
      rfl
  | whitespace =>
      rfl

/-- A piece between single spaces has no space in it. -/
theorem space_not_mem_of_mem_split
    {line piece : String}
    (member : piece ∈ split .literalSpace line) :
    ' ' ∉ piece.toList := by
  obtain ⟨characters, inPieces, rfl⟩ := List.mem_map.1 member
  rw [String.toList_ofList]
  intro isIn
  cases Text.separates_eq_false_of_mem_splitAt inPieces ' ' isIn

/-- The pieces between single spaces are the line when they are joined. -/
theorem intercalate_split (line : String) :
    " ".intercalate (split .literalSpace line) = line := by
  have characters :
      (split .literalSpace line).map String.toList =
        line.toList.splitOn ' ' := by
    simp [split, wordsBetween, Text.splitAt_eq_splitOnP,
      List.splitOn_eq_splitOnP, Function.comp_def]
  rw [← String.toList_inj, String.toList_intercalate, characters]
  exact List.intercalate_splitOn ' '

/-- Words that are joined by single spaces are found again. -/
theorem split_intercalate
    {words : List String}
    (notEmpty : words ≠ [])
    (noSpaces : ∀ word ∈ words, ' ' ∉ word.toList) :
    split .literalSpace (" ".intercalate words) = words := by
  have pieces :
      ([' '].intercalate (words.map String.toList)).splitOn ' ' =
        words.map String.toList :=
    List.splitOn_intercalate ' ' (by simpa using noSpaces) (by simpa)
  rw [List.splitOn_eq_splitOnP] at pieces
  have space : " ".toList = [' '] := rfl
  rw [split, wordsBetween, String.toList_intercalate, space,
    Text.splitAt_eq_splitOnP, pieces, List.map_map]
  simp [Function.comp_def]

end SplitRule

namespace Command

/-- The words that the command is written with. -/
def words : Command → List String
  | .load path => ["load", path]
  | .run => ["run"]
  | .listTokens => ["list", "tokens"]
  | .listTree => ["list", "ast"]
  | .reset => ["reset"]
  | .spyMemory => ["spy", "memory"]
  | .help => ["help"]
  | .quit => ["quit"]

/-- The words with single spaces between them. -/
def spelling (command : Command) : String :=
  " ".intercalate command.words

/-- The path of a load can be written as one word. -/
def HasPlainPath : Command → Prop
  | .load path => Text.IsWord Text.isBlank path
  | _ => True

/-- The words of a command make the command. -/
theorem parse_words
    {command : Command}
    (hasPlainPath : command.HasPlainPath) :
    parse command.words = .ok (some command) := by
  cases command with
  | load path =>
      have isArgument : argument? ["load", path] = some path := by
        simp [argument?, hasPlainPath.notEmpty]
      have notBlank : ["load", path].all String.isEmpty = false := rfl
      simp only [words, parse, notBlank, isArgument]
      rfl
  | _ =>
      rfl

/-- No word of a command has a blank character in it. -/
theorem isWord_of_mem_words
    {command : Command}
    (hasPlainPath : command.HasPlainPath) :
    ∀ word ∈ command.words, Text.IsWord Text.isBlank word := by
  cases command with
  | load path =>
      refine List.forall_mem_cons.2 ⟨by decide, ?_⟩
      exact List.forall_mem_singleton.2 hasPlainPath
  | _ =>
      decide

/-- A padded command is found by the rules that drop empty pieces. -/
theorem parse_split_padded
    {command : Command}
    (hasPlainPath : command.HasPlainPath)
    {line : String}
    (padded : Text.Padded command.words line.toList)
    {rule : SplitRule}
    (collapses : rule ≠ .literalSpace) :
    parse (rule.split line) = .ok (some command) := by
  have areWords
      (word : String)
      (member : word ∈ command.words) :
      Text.IsWord rule.separates word :=
    (isWord_of_mem_words hasPlainPath word member).mono
      rule.isBlank_of_separates
  rw [SplitRule.split_eq_wordsOf collapses,
    padded.wordsOf_eq rule.separates_space areWords,
    parse_words hasPlainPath]

/-- A command spelled with single spaces is found between single spaces. -/
theorem parse_split_spelling
    {command : Command}
    (hasPlainPath : command.HasPlainPath) :
    parse (SplitRule.split .literalSpace command.spelling) =
      .ok (some command) := by
  have notEmpty : command.words ≠ [] := by
    cases command <;> exact List.cons_ne_nil _ _
  have noSpaces
      (word : String)
      (member : word ∈ command.words) :
      ' ' ∉ word.toList := by
    intro isIn
    cases (isWord_of_mem_words hasPlainPath word member).stays ' ' isIn
  rw [spelling, SplitRule.split_intercalate notEmpty noSpaces,
    parse_words hasPlainPath]

/--
Words make the same command, or the same failure, or none, if they are joined
by single spaces and cut at them again.  No words at all are joined to an empty
line, which is cut into one empty piece.
-/
theorem parse_split_intercalate
    {words : List String}
    (noSpaces : ∀ word ∈ words, ' ' ∉ word.toList) :
    parse (SplitRule.split .literalSpace (" ".intercalate words)) =
      parse words := by
  cases words with
  | nil =>
      rfl
  | cons first later =>
      rw [SplitRule.split_intercalate (List.cons_ne_nil first later) noSpaces]

/-- Joining the words of a line by single spaces changes no command. -/
theorem parse_split_eq_parse_split_intercalate
    {rule : SplitRule}
    (collapses : rule ≠ .literalSpace)
    (line : String) :
    parse (rule.split line) =
      parse (SplitRule.split .literalSpace
        (" ".intercalate (rule.split line))) := by
  refine (parse_split_intercalate fun word member isIn => ?_).symm
  rw [SplitRule.split_eq_wordsOf collapses] at member
  have stays := (Text.isWord_of_mem_wordsOf member).stays ' ' isIn
  rw [rule.separates_space] at stays
  cases stays

end Command

/--
How a line is spaced does not matter to the rules that drop empty pieces.  They
make of it what the rule for single spaces makes of its words with single
spaces between them, and that rule in turn loses nothing of a line.  So every
command is found however its words are padded.
-/
theorem SplitRule.spacing_decides_nothing (line : String) :
    (∀ piece ∈ split .literalSpace line, ' ' ∉ piece.toList) ∧
      " ".intercalate (split .literalSpace line) = line ∧
      split .spaceRuns line =
        (split .literalSpace line).filter (fun piece => piece != "") ∧
      (∀ rule, rule ≠ .literalSpace →
        Command.parse (split rule line) =
          Command.parse
            (split .literalSpace (" ".intercalate (split rule line)))) ∧
      ∀ command : Command, command.HasPlainPath →
        Command.parse (split .literalSpace command.spelling) =
            .ok (some command) ∧
          (Text.Padded command.words line.toList →
            ∀ rule, rule ≠ .literalSpace →
              Command.parse (split rule line) = .ok (some command)) := by
  refine ⟨fun _ => space_not_mem_of_mem_split, intercalate_split line, ?_, ?_,
    ?_⟩
  · have sameTest (piece : String) : (!piece.isEmpty) = (piece != "") := by
      rw [Bool.eq_iff_iff]
      simp
    simp only [split, sameTest]
  · exact fun _ collapses =>
      Command.parse_split_eq_parse_split_intercalate collapses line
  · exact fun _ hasPlainPath =>
      ⟨Command.parse_split_spelling hasPlainPath,
        fun padded _ collapses =>
          Command.parse_split_padded hasPlainPath padded collapses⟩

/-- Two spaces in front, three between the words, and one behind. -/
theorem SplitRule.paddedLoad_spacing_decides_nothing :
    (Command.load "a.owl").HasPlainPath ∧
      Text.Padded (Command.load "a.owl").words "  load   a.owl ".toList ∧
      SplitRule.whitespace ≠ .literalSpace ∧
      Command.parse (split .whitespace "  load   a.owl ") =
        .ok (some (.load "a.owl")) ∧
      Command.parse (split .whitespace "  load   a.owl ") =
        Command.parse
          (split .literalSpace
            (" ".intercalate (split .whitespace "  load   a.owl "))) := by
  have hasPlainPath : (Command.load "a.owl").HasPlainPath :=
    show Text.IsWord Text.isBlank "a.owl" by decide
  have padded :
      Text.Padded (Command.load "a.owl").words "  load   a.owl ".toList :=
    .more 2 "load" (.lone 2 1 "a.owl")
  obtain ⟨-, -, -, sameAsJoined, found⟩ :=
    spacing_decides_nothing "  load   a.owl "
  exact ⟨hasPlainPath, padded, nofun,
    (found _ hasPlainPath).2 padded .whitespace nofun,
    sameAsJoined .whitespace nofun⟩

end OwlScript
