import OwlScript.Proofs.Parse.Provenance
import OwlScript.Proofs.Parse.ProgramSoundness
import OwlScript.Proofs.Parse.SpelledParts
import OwlScript.Proofs.Run.FailingNodes
import OwlScript.Proofs.Token.Lines

namespace OwlScript

/-!
# Where faults are placed

Every stage places its faults in the source.  The scanner places them at the
quote of a string that does not end, the parser at a token, and a run at the
first token of the node that fails, or of the assignment whose target is not
bound.
-/

/-- What tokens may be scanned from. -/
inductive Source where
  | text (characters : String)
  | file (files : Files) (path : String)

namespace Source

/-- The lines of the source; a text is one line. -/
def lines : Source → List Line
  | .text characters => [Line.ofText characters]
  | .file files path => (LineStore.empty.load files path).2.lines

/-- The tokens of the source. -/
def tokens : Source → Except Failure (List Token)
  | .text characters => tokensOfText characters
  | .file files path => tokensOfFile files path

/-- The character stands at the position, both counted from one. -/
def HasAt (source : Source) (position : Position) (value : Char) : Prop :=
  ∃ line column content,
    source.lines[line]? = some content ∧ content.get? column = some value ∧
      position = ⟨line + 1, column + 1⟩

end Source

/-- The diagnostic is one of the stage and has the position. -/
def Diagnostic.PointsAt
    (diagnostic : Diagnostic)
    (stage : Stage)
    (position : Position) : Prop :=
  diagnostic.stage = stage ∧ diagnostic.position = some position

/-! ### Scanning -/

namespace Source

variable {source : Source}
variable {tokens : List Token}
variable {diagnostic : Diagnostic}

/-- A character of the source stands at the position it is located at. -/
theorem hasAt_of_mem_locateLines
    {character : SourceCharacter}
    (member : character ∈ locateLines source.lines) :
    source.HasAt character.position character.value := by
  obtain ⟨located, inLines, inLocated⟩ := List.mem_flatten.1 member
  obtain ⟨line, isLine, rfl⟩ := List.mem_mapIdx.1 inLines
  obtain ⟨column, isColumn, rfl⟩ := List.mem_mapIdx.1 inLocated
  exact ⟨line, column, source.lines[line], List.getElem?_eq_getElem isLine,
    List.getElem?_eq_getElem isColumn, rfl⟩

/-- What fails to be scanned is a string, and its quote is in the source. -/
theorem exists_quote_of_tokens_eq_error
    (failed : source.tokens = .error (.diagnostic diagnostic)) :
    ∃ position,
      diagnostic.PointsAt .lexer position ∧ source.HasAt position '"' := by
  have ofScan
      (failed :
        Scan.tokens (Cursor.ofLines source.lines) =
          .error (.diagnostic diagnostic)) :
      ∃ position,
        diagnostic.PointsAt .lexer position ∧ source.HasAt position '"' := by
    obtain ⟨character, member, isQuote, same⟩ :=
      Scan.exists_of_tokens_eq_error _ failed
    have hasAt := hasAt_of_mem_locateLines member
    rw [isQuote] at hasAt
    cases same
    exact ⟨character.position, ⟨rfl, rfl⟩, hasAt⟩
  cases source with
  | text characters =>
      exact ofScan failed
  | file files path =>
      simp only [tokens, tokensOfFile, Cursor.ofFile] at failed
      cases loaded : (LineStore.empty.load files path).1 with
      | true =>
          rw [loaded] at failed
          exact ofScan failed
      | false =>
          rw [loaded] at failed
          cases failed

end Source

/-! ### Parsing -/

namespace Program

variable {tokens : List Token}
variable {diagnostic : Diagnostic}
variable {program : Program}

/-- No tokens are the program of no statements. -/
theorem ofTokens_nil : ofTokens [] = .ok ⟨[]⟩ :=
  rfl

/-- The parser places a fault at one of its tokens, whatever they are. -/
theorem exists_token_of_ofTokens_eq_error
    (refused : ofTokens tokens = .error diagnostic) :
    ∃ token ∈ tokens, diagnostic.PointsAt .parser token.position := by
  have isFault := isSyntaxFault_of_ofTokens refused
  obtain ⟨position, placed, isPlace⟩ := isFault.exists_place
  have notEmpty : tokens ≠ [] := by
    rintro rfl
    rw [ofTokens_nil] at refused
    cases refused
  obtain ⟨token, member, rfl⟩ := isPlace.exists_of_ne_nil notEmpty
  exact ⟨token, member, isFault.isOfParser, placed⟩

/-! ### Running -/

/--
What goes wrong while the variables have these values begins with the token:
it is the one node that is evaluated and fails itself, or an assignment whose
target is not bound.
-/
inductive FailsAtToken
    (program : Program)
    (tokens : List Token)
    (globals : Globals)
    (diagnostic : Diagnostic)
    (first : Token) : Prop where
  | atNode
      {expression node : Expression}
      {later : List Token}
      (member : expression ∈ program.expressions)
      (reached : node.IsReachedFrom globals expression)
      (fails : node.FailsItself globals diagnostic)
      (only :
        ∀ other fault,
          other.IsReachedFrom globals expression →
            other.FailsItself globals fault → other = node)
      (within : first :: later <:+: tokens)
      (spelled : Grammar.Spells (first :: later) node)
  | atAssignment
      {name : String}
      {value : Expression}
      {stored : Stored}
      {later : List Token}
      (member : .assign first.position name value ∈ program.simpleStatements)
      (evaluated : value.evaluate globals = .ok stored)
      (unbound : globals.contains name = false)
      (same :
        diagnostic =
          (RuntimeFault.undefinedTarget name).located first.position)
      (within : first :: later <:+: tokens)
      (derived :
        Grammar.Derives Grammar.Maximal
          (.statement (.assign first.position name value)) (first :: later))

/-- All parts of a parsed program are spelled among the tokens. -/
theorem holdsParts_of_ofTokens
    (parsed : ofTokens tokens = .ok program) :
    Grammar.HoldsParts Grammar.Maximal tokens program.expressions
      program.simpleStatements := by
  obtain ⟨derived, -⟩ := derives_of_ofTokens_eq_ok parsed
  exact derived.holdsParts.mono (List.takeWhile_prefix _).isInfix

/-- What goes wrong in a parsed program begins with one of the tokens. -/
theorem exists_token_of_failsAmong
    (parsed : ofTokens tokens = .ok program)
    {globals : Globals}
    (fails :
      FailsAmong program.simpleStatements program.expressions globals
        diagnostic) :
    ∃ token ∈ tokens,
      token.kind ≠ .endOfInput ∧
        diagnostic.PointsAt .runtime token.position ∧
          program.FailsAtToken tokens globals diagnostic token := by
  have holds := holdsParts_of_ofTokens parsed
  cases fails with
  | @atNode expression node member reached fails =>
      obtain ⟨part, partWithin, spells⟩ := holds.spelled expression member
      have nodeSpelled :=
        (spells.within_of_mem_nodes reached.mem_nodes).mono partWithin
      obtain ⟨first, later, within, spelled, notEnd, placed⟩ :=
        nodeSpelled.exists_first
      have only
          (other : Expression)
          (fault : Diagnostic)
          (otherReached : other.IsReachedFrom globals expression)
          (otherFails : other.FailsItself globals fault) :
          other = node :=
        reached.eq_of_failsItself fails otherReached otherFails
      obtain ⟨fault, located, -⟩ := fails.exists_fault
      rw [← placed] at located
      exact ⟨first, within.subset List.mem_cons_self, notEnd,
        located ▸ ⟨rfl, rfl⟩,
        .atNode member reached fails only within spelled⟩
  | atAssignment member evaluated unbound same =>
      obtain ⟨first, later, within, derived, notEnd, rfl⟩ :=
        (holds.derived _ member).exists_first
      exact ⟨first, within.subset List.mem_cons_self, notEnd,
        same ▸ ⟨rfl, rfl⟩,
        .atAssignment member evaluated unbound same within derived⟩

/-- A run places a fault at the first token of what goes wrong. -/
theorem exists_token_of_run
    (parsed : ofTokens tokens = .ok program)
    {rounds : Nat}
    {state last : Execution}
    (failed :
      program.run rounds state = .failed (.diagnostic diagnostic) last) :
    ∃ token ∈ tokens,
      token.kind ≠ .endOfInput ∧
        diagnostic.PointsAt .runtime token.position ∧
          program.FailsAtToken tokens last.globals diagnostic token := by
  rcases mayFailIn_of_run failed with ⟨⟨⟩⟩ | ⟨_, ⟨⟩, fails⟩
  exact exists_token_of_failsAmong parsed fails

end Program

/--
Every diagnostic points into the source.  The scanner points at a quote of the
source, the parser at a token, and a run at the first token of the node that
fails or of the assignment whose target is not bound.  The parser points at
one of its tokens even if they are not those of a source, and it refuses no
empty row of tokens.
-/
theorem Source.diagnostics_point_into_source (source : Source) :
    (∀ diagnostic, source.tokens = .error (.diagnostic diagnostic) →
      ∃ position,
        diagnostic.PointsAt .lexer position ∧ source.HasAt position '"') ∧
    (∀ tokens, source.tokens = .ok tokens →
      (∀ diagnostic, Program.ofTokens tokens = .error diagnostic →
        ∃ token ∈ tokens, diagnostic.PointsAt .parser token.position) ∧
      ∀ program, Program.ofTokens tokens = .ok program →
        ∀ rounds state diagnostic last,
          program.run rounds state = .failed (.diagnostic diagnostic) last →
            ∃ token ∈ tokens,
              token.kind ≠ .endOfInput ∧
                diagnostic.PointsAt .runtime token.position ∧
                  program.FailsAtToken tokens last.globals diagnostic
                    token) ∧
    (∀ slice, slice ≠ [] →
      ∀ diagnostic, Program.ofTokens slice = .error diagnostic →
        ∃ token ∈ slice, diagnostic.PointsAt .parser token.position) ∧
    ∃ program, Program.ofTokens [] = .ok program := by
  refine ⟨fun _ => exists_quote_of_tokens_eq_error, ?_, ?_,
    ⟨[]⟩, Program.ofTokens_nil⟩
  · intro tokens scanned
    refine ⟨fun _ => Program.exists_token_of_ofTokens_eq_error, ?_⟩
    intro program parsed rounds state diagnostic last failed
    exact Program.exists_token_of_run parsed failed
  · intro slice notEmpty diagnostic refused
    exact Program.exists_token_of_ofTokens_eq_error refused

/-- A script that subtracts a division by zero, as its tokens. -/
def differenceTokens : List Token :=
  [⟨.keyword .printWord, "print", ⟨1, 1⟩⟩, ⟨.integer, "2", ⟨1, 7⟩⟩,
    ⟨.minus, "-", ⟨1, 9⟩⟩, ⟨.integer, "1", ⟨1, 11⟩⟩,
    ⟨.slash, "/", ⟨1, 13⟩⟩, ⟨.integer, "0", ⟨1, 15⟩⟩,
    ⟨.endOfInput, "", ⟨1, 16⟩⟩]

/-- The program of the script. -/
def difference : Program :=
  ⟨[.print ⟨1, 1⟩
    [.binary (.arithmetic .subtract) (.literal ⟨1, 7⟩ (.int 2))
      (.binary (.arithmetic .divide) (.literal ⟨1, 11⟩ (.int 1))
        (.literal ⟨1, 15⟩ (.int 0)))]]⟩

/-- A script that ends behind its first word, as its tokens. -/
def lonePrintTokens : List Token :=
  [⟨.keyword .printWord, "print", ⟨1, 1⟩⟩, ⟨.endOfInput, "", ⟨1, 6⟩⟩]

/--
Each stage points at what it refuses: an open quote, the end behind a lone
keyword, the division inside a difference.
-/
theorem each_stage_points_into_source :
    (Source.text "a \"b").HasAt ⟨1, 3⟩ '"' ∧
      (∃ token ∈ lonePrintTokens, token.position = ⟨1, 6⟩) ∧
        ∃ token ∈ differenceTokens,
          token.kind ≠ .endOfInput ∧ token.position = ⟨1, 11⟩ := by
  refine ⟨?_, ?_, ?_⟩
  · obtain ⟨position, pointsAt, quote⟩ :=
      (Source.text "a \"b").diagnostics_point_into_source.1
        (.located .lexer "unterminated string literal" ⟨1, 3⟩) rfl
    rwa [Option.some.inj pointsAt.2]
  · obtain ⟨token, member, pointsAt⟩ :=
      ((Source.text "print").diagnostics_point_into_source.2.1
        lonePrintTokens rfl).1 (SyntaxFault.unexpectedEnd.located ⟨1, 6⟩) rfl
    exact ⟨token, member, (Option.some.inj pointsAt.2).symm⟩
  · have failed :
        difference.run 0 ⟨.fresh, .unlimited, .start false⟩ =
          .failed
            (.diagnostic (RuntimeFault.divisionByZero.located ⟨1, 11⟩))
            ⟨⟨.empty, 1⟩, .unlimited, .start false⟩ :=
      rfl
    obtain ⟨token, member, notEnd, pointsAt, -⟩ :=
      ((Source.text "print 2 - 1 / 0").diagnostics_point_into_source.2.1
        differenceTokens rfl).2 difference rfl _ _ _ _ failed
    exact ⟨token, member, notEnd, (Option.some.inj pointsAt.2).symm⟩

end OwlScript
