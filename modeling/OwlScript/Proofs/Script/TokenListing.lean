import OwlScript.Proofs.Run.WrittenPieces
import OwlScript.Proofs.Script.Reports

namespace OwlScript

/-!
# Listings line by line

A listing of tokens closes each entry with a line feed.  What an entry shows
besides the lexeme has no line feed in it, and of the lexemes only those of
strings may have any, since they are the texts that the strings stand for.  So
the listing has one line a token exactly if no string stands for a text with a
line feed.  Otherwise the entry of such a string takes several lines, and all
entries behind it are further down.
-/

/-- The number of line feeds in a text. -/
def lineFeeds (text : String) : Nat :=
  text.toList.count '\n'

/-- The lines of a text, each with its line feed if it has one. -/
def closedLines (text : String) : List String :=
  (Text.cutAfter (· == '\n') text.toList).map String.ofList

/-- The line feeds of two texts in a row are added up. -/
theorem lineFeeds_append (front back : String) :
    lineFeeds (front ++ back) = lineFeeds front + lineFeeds back := by
  unfold lineFeeds
  rw [String.toList_append, List.count_append]

/-- A text with no line feed stays on its line, and no other does. -/
theorem lineFeeds_eq_zero_iff (text : String) :
    lineFeeds text = 0 ↔ StaysOnLine text :=
  List.count_eq_zero

/-- A text on one line and a line feed are one closed line. -/
theorem closedLines_lineFeed
    {text : String}
    (stays : StaysOnLine text) :
    closedLines (text ++ "\n") = [text ++ "\n"] := by
  have noneCloses : ∀ element ∈ text.toList, (element == '\n') = false := by
    intro element member
    refine beq_eq_false_iff_ne.2 fun isLineFeed => stays ?_
    rwa [← isLineFeed]
  have characters : (text ++ "\n").toList = text.toList ++ ['\n'] :=
    String.toList_append
  have cut := Text.cutAfter_append_singleton noneCloses (beq_self_eq_true '\n')
  rw [closedLines, characters, cut, List.map_singleton, ← characters,
    String.ofList_toList]

/-- Behind a line feed the lines are those of the rest. -/
theorem closedLines_lineFeed_append (front rest : String) :
    closedLines (front ++ "\n" ++ rest) =
      closedLines (front ++ "\n") ++ closedLines rest := by
  have characters : (front ++ "\n").toList = front.toList ++ ['\n'] :=
    String.toList_append
  have isClosed :
      Text.IsClosed (· == '\n') (front ++ "\n").toList :=
    .inr ⟨front.toList, '\n', beq_self_eq_true '\n', characters⟩
  unfold closedLines
  rw [String.toList_append, isClosed.cutAfter_append, List.map_append]

namespace Token

/-- The line feeds that a token shows in its entry. -/
def shownLineFeeds (token : Token) : Nat :=
  match token.kind with
  | .string => lineFeeds token.lexeme
  | _ => 0

/-- The line feeds that tokens show in their entries. -/
def allShownLineFeeds (tokens : List Token) : Nat :=
  tokens.foldr (fun token total => token.shownLineFeeds + total) 0

/--
The line feeds that a listing shows are those of its first token and the
others.
-/
theorem allShownLineFeeds_cons (token : Token) (rest : List Token) :
    allShownLineFeeds (token :: rest) =
      token.shownLineFeeds + allShownLineFeeds rest :=
  rfl

/-- A listing shows no line feed if its strings have none. -/
theorem allShownLineFeeds_eq_zero_iff (tokens : List Token) :
    allShownLineFeeds tokens = 0 ↔
      ∀ token ∈ tokens, token.kind = .string → StaysOnLine token.lexeme := by
  induction tokens with
  | nil =>
      exact ⟨fun _ => nofun, fun _ => rfl⟩
  | cons token rest hypothesis =>
      have first :
          token.shownLineFeeds = 0 ↔
            (token.kind = .string → StaysOnLine token.lexeme) := by
        unfold shownLineFeeds
        split
        · next isString =>
            rw [lineFeeds_eq_zero_iff]
            exact ⟨fun stays _ => stays, fun stays => stays isString⟩
        · next notString =>
            exact ⟨fun _ isString => absurd isString notString, fun _ => rfl⟩
      rw [List.forall_mem_cons, ← hypothesis, ← first, allShownLineFeeds_cons]
      exact Nat.add_eq_zero_iff

/--
The listing has one line for each token: as many line feeds as there are
tokens, and the entries in order as the lines that these close.
-/
structure ListsLinewise (tokens : List Token) : Prop where
  count : lineFeeds (listing tokens) = tokens.length
  lines :
    closedLines (listing tokens) =
      tokens.map fun token => token.entry ++ "\n"

/-- All lexemes stay on a line, except that those of strings need not. -/
def OnlyStringsBreak (tokens : List Token) : Prop :=
  ∀ token ∈ tokens, token.kind ≠ .string → StaysOnLine token.lexeme

/-- A listing is the line of its first token, and behind it the other lines. -/
theorem listing_cons (token : Token) (rest : List Token) :
    listing (token :: rest) = token.entry ++ "\n" ++ listing rest := by
  simp [listing, String.join_cons]

/-- The text of a place stays on its line. -/
theorem staysOnLine_placeText (token : Token) :
    StaysOnLine token.placeText := by
  intro member
  unfold placeText at member
  dsimp only at member
  rw [toList_pushn, List.mem_append] at member
  rcases member with inPosition | inPadding
  · exact token.position.staysOnLine_text inPosition
  · cases List.eq_of_mem_replicate inPadding

/-- The name of a kind stays on its line. -/
theorem staysOnLine_kindName (kind : TokenKind) : StaysOnLine kind.name := by
  cases kind with
  | keyword word =>
      cases word <;> decide
  | _ =>
      decide

/-- Besides the lexeme, an entry has no line feeds. -/
theorem lineFeeds_entry
    {token : Token}
    (onlyString : token.kind ≠ .string → StaysOnLine token.lexeme) :
    lineFeeds token.entry = token.shownLineFeeds := by
  have place : lineFeeds token.placeText = 0 :=
    (lineFeeds_eq_zero_iff _).2 token.staysOnLine_placeText
  have name : lineFeeds token.kind.name = 0 :=
    (lineFeeds_eq_zero_iff _).2 (staysOnLine_kindName token.kind)
  have space : lineFeeds " " = 0 := by decide
  have opening : lineFeeds " `" = 0 := by decide
  have closing : lineFeeds "`" = 0 := by decide
  have ending : lineFeeds " Eof" = 0 := by decide
  by_cases isEnd : token.kind = .endOfInput
  · simp only [entry, shownLineFeeds, isEnd, lineFeeds_append, place, ending]
  · have shown :
        lineFeeds token.entry = lineFeeds token.lexeme := by
      unfold entry
      split
      · next ended => exact absurd ended isEnd
      · simp only [lineFeeds_append, place, name, space, opening, closing,
          Nat.zero_add, Nat.add_zero]
    by_cases isString : token.kind = .string
    · simp only [shown, shownLineFeeds, isString]
    · have unshown : token.shownLineFeeds = 0 := by
        unfold shownLineFeeds
        split
        · next string => exact absurd string isString
        · rfl
      rw [shown, unshown, lineFeeds_eq_zero_iff]
      exact onlyString isString

/-- A listing has a line feed for each token, and those in texts of strings. -/
theorem lineFeeds_listing
    {tokens : List Token}
    (onlyStrings : OnlyStringsBreak tokens) :
    lineFeeds (listing tokens) =
      tokens.length + allShownLineFeeds tokens := by
  induction tokens with
  | nil =>
      rfl
  | cons token rest hypothesis =>
      obtain ⟨first, later⟩ := List.forall_mem_cons.1 onlyStrings
      have lineFeed : lineFeeds "\n" = 1 := by decide
      rw [listing_cons, lineFeeds_append, lineFeeds_append, lineFeed,
        lineFeeds_entry first, hypothesis later, allShownLineFeeds_cons,
        List.length_cons]
      omega

/-- Entries that stay on their lines are the lines of the listing. -/
theorem closedLines_listing
    {tokens : List Token}
    (stay : ∀ token ∈ tokens, StaysOnLine token.entry) :
    closedLines (listing tokens) =
      tokens.map fun token => token.entry ++ "\n" := by
  induction tokens with
  | nil =>
      rfl
  | cons token rest hypothesis =>
      obtain ⟨first, later⟩ := List.forall_mem_cons.1 stay
      rw [listing_cons, closedLines_lineFeed_append,
        closedLines_lineFeed first, hypothesis later]
      rfl

/-- The listing has one line a token exactly if no string breaks its entry. -/
theorem listsLinewise_iff
    {tokens : List Token}
    (onlyStrings : OnlyStringsBreak tokens) :
    ListsLinewise tokens ↔
      ∀ token ∈ tokens, token.kind = .string → StaysOnLine token.lexeme := by
  have total := lineFeeds_listing onlyStrings
  constructor
  · intro linewise
    rw [linewise.count] at total
    exact (allShownLineFeeds_eq_zero_iff tokens).1 (by omega)
  · intro stringsStay
    have nothing := (allShownLineFeeds_eq_zero_iff tokens).2 stringsStay
    refine ⟨by rw [total, nothing, Nat.add_zero], closedLines_listing ?_⟩
    intro token member
    have alone : lineFeeds token.entry = token.shownLineFeeds :=
      lineFeeds_entry (onlyStrings token member)
    rw [← lineFeeds_eq_zero_iff, alone]
    have single := (allShownLineFeeds_eq_zero_iff [token]).2
      (List.forall_mem_singleton.2 (stringsStay token member))
    exact single

/-- Texts that are scanned break no lexeme but those of strings. -/
theorem onlyStringsBreak_of_tokensOfText
    {text : String}
    {tokens : List Token}
    (scanned : tokensOfText text = .ok tokens) :
    OnlyStringsBreak tokens := by
  have splits := (tokensOfText_eq_ok_iff_splits text tokens).1 scanned
  obtain ⟨body, rfl, noEnd⟩ := splits.exists_body
  intro token member notString
  rcases List.mem_append.1 member with inBody | isEnd
  · obtain ⟨_, span, _, _, _, isSpan, _⟩ :=
      splits.exists_span_of_mem member (noEnd token inBody)
    have unbroken := isSpan.unbroken notString
    rw [isSpan.eq_lexeme notString] at unbroken
    exact unbroken.staysOnLine
  · rw [List.mem_singleton.1 isEnd]
    exact nofun

/-- Behind a listing, other text begins on a line of its own. -/
theorem closedLines_listing_append (tokens : List Token) (rest : String) :
    closedLines (listing tokens ++ rest) =
      closedLines (listing tokens) ++ closedLines rest := by
  induction tokens with
  | nil =>
      have nothing : listing [] = "" := rfl
      rw [nothing, String.empty_append]
      rfl
  | cons token later hypothesis =>
      rw [listing_cons, String.append_assoc, closedLines_lineFeed_append,
        closedLines_lineFeed_append, hypothesis, List.append_assoc]

end Token

/-- The lines of the listing are lines of what a batch run shows. -/
theorem Batch.closedLines_pipelineText (script : Script) :
    closedLines (pipelineText script) =
      "== tokens ==\n" ::
        (closedLines (Token.listing script.tokens) ++
          closedLines
            ("== ast ==\n" ++ script.program.outlineText ++
              "== output ==\n")) := by
  have heading : "== tokens ==\n" = "== tokens ==" ++ "\n" := by decide
  have headingLine :
      closedLines ("== tokens ==" ++ "\n") = ["== tokens ==" ++ "\n"] :=
    closedLines_lineFeed (by decide)
  have parts :
      pipelineText script =
        "== tokens ==" ++ "\n" ++
          (Token.listing script.tokens ++
            ("== ast ==\n" ++ script.program.outlineText ++
              "== output ==\n")) := by
    unfold pipelineText
    simp only [heading, String.append_assoc]
  rw [parts, closedLines_lineFeed_append, headingLine,
    Token.closedLines_listing_append, heading]
  rfl

/--
A listing of scanned tokens has a line feed for each token, and one more for
each line feed in a text that a string stands for.  So it has one line a token
exactly if there are none of these.  The shell writes the listing as it is,
and a batch run shows its lines behind a heading.
-/
theorem Token.listing_isLinewise_iff
    {tokens : List Token}
    (scanned :
      (∃ text, tokensOfText text = .ok tokens) ∨
        ∃ files path, tokensOfFile files path = .ok tokens) :
    lineFeeds (listing tokens) = tokens.length + allShownLineFeeds tokens ∧
      (ListsLinewise tokens ↔
        ∀ token ∈ tokens, token.kind = .string →
          StaysOnLine token.lexeme) ∧
      (∀ (rounds : Nat) (files : Files) (shell : Shell),
        shell.tokens = tokens →
          shell.perform rounds files .listTokens =
            shell.write (listing tokens)) ∧
      ∀ script : Script,
        script.tokens = tokens →
          closedLines (Batch.pipelineText script) =
            "== tokens ==\n" ::
              (closedLines (listing tokens) ++
                closedLines
                  ("== ast ==\n" ++ script.program.outlineText ++
                    "== output ==\n")) := by
  have onlyStrings : OnlyStringsBreak tokens := by
    rcases scanned with ⟨text, ofText⟩ | ⟨files, path, ofFile⟩
    · exact onlyStringsBreak_of_tokensOfText ofText
    · intro token member notString
      exact
        (unbroken_lexeme_of_tokensOfFile ofFile member notString).staysOnLine
  refine ⟨lineFeeds_listing onlyStrings, listsLinewise_iff onlyStrings, ?_, ?_⟩
  · rintro rounds files shell rfl
    exact shell.perform_listTokens rounds files
  · rintro script rfl
    exact Batch.closedLines_pipelineText script

/-- One string and the end take three lines, with the end on the last. -/
theorem Token.escapedLineFeed_not_listsLinewise :
    ∃ tokens,
      tokensOfText "\"a\\nb\"" = .ok tokens ∧
        tokens.length = 2 ∧
        lineFeeds (listing tokens) = 3 ∧
        ¬ListsLinewise tokens := by
  have computed :
      (tokensOfText "\"a\\nb\"").toOption =
        some
          [⟨.string, "a\nb", ⟨1, 1⟩⟩, ⟨.endOfInput, "", ⟨1, 7⟩⟩] := by
    decide +kernel
  have scanned := Except.toOption_eq_some_iff.1 computed
  obtain ⟨count, linewise, -⟩ := listing_isLinewise_iff (.inl ⟨_, scanned⟩)
  refine ⟨_, scanned, rfl, count.trans (by decide), fun isLinewise => ?_⟩
  have stays := linewise.1 isLinewise _ List.mem_cons_self rfl
  revert stays
  decide

end OwlScript
