import OwlScript.Batch
import OwlScript.Proofs.Parse.Provenance
import OwlScript.Proofs.Run.Faults
import OwlScript.Proofs.Script.Loading
import OwlScript.Proofs.Token.Lexemes

namespace OwlScript

/-!
# Reports on one line

A batch run that fails reports one failure.  Its text is put together from
fixed words, positions, the names of the program, and the lexeme of a token
that was not expected.  None of these has a line feed in it, except that the
lexeme of a string is the text it stands for.  So a report goes over several
lines exactly if the parser refuses such a string and shows it in a note.
-/

/-- The text has no line feed in it. -/
def StaysOnLine (text : String) : Prop :=
  '\n' ∉ text.toList

instance (text : String) : Decidable (StaysOnLine text) :=
  inferInstanceAs (Decidable ('\n' ∉ text.toList))

/-- Two texts in a row stay on a line if each of them does. -/
@[simp]
theorem staysOnLine_append_iff (front back : String) :
    StaysOnLine (front ++ back) ↔ StaysOnLine front ∧ StaysOnLine back := by
  simp only [StaysOnLine, String.toList_append, List.mem_append, not_or]

/-- Texts in a row stay on a line if each of them does. -/
theorem staysOnLine_join_iff (texts : List String) :
    StaysOnLine (String.join texts) ↔ ∀ text ∈ texts, StaysOnLine text := by
  simp only [StaysOnLine, String.toList_join, List.mem_flatMap, not_exists,
    not_and]

/-- A text with no line feed stays on its line. -/
theorem Unbroken.staysOnLine
    {text : String}
    (unbroken : Unbroken text.toList) :
    StaysOnLine text :=
  unbroken.1

/-- A number is written with digits. -/
theorem staysOnLine_toString (number : Nat) :
    StaysOnLine (toString number) := by
  intro member
  have written : (toString number).toList = Nat.toDigits 10 number :=
    Nat.toList_repr
  rw [written] at member
  have isDigit := Nat.isDigit_of_mem_toDigits (by decide) (by decide) member
  revert isDigit
  decide

/-- The text of a position stays on its line. -/
theorem Position.staysOnLine_text (position : Position) :
    StaysOnLine position.text := by
  unfold text
  rw [staysOnLine_append_iff, staysOnLine_append_iff]
  exact ⟨⟨staysOnLine_toString _, by decide⟩, staysOnLine_toString _⟩

/-! ### Faults in words -/

/-- The message of a fault that names no token stays on its line. -/
theorem SyntaxFault.IsPlain.staysOnLine_message
    {fault : SyntaxFault}
    (isPlain : fault.IsPlain) :
    StaysOnLine fault.message := by
  cases fault with
  | unexpectedToken lexeme =>
      exact isPlain.elim
  | _ =>
      decide

/-- The message of a runtime fault stays on its line if the names in it do. -/
theorem RuntimeFault.staysOnLine_message
    {fault : RuntimeFault}
    (names : ∀ name ∈ fault.names, StaysOnLine name) :
    StaysOnLine fault.message := by
  cases fault with
  | undefinedVariable name =>
      unfold message
      rw [staysOnLine_append_iff, staysOnLine_append_iff]
      exact ⟨⟨by decide, names name List.mem_cons_self⟩, by decide⟩
  | undefinedTarget name =>
      unfold message
      rw [staysOnLine_append_iff, staysOnLine_append_iff]
      exact ⟨⟨by decide, names name List.mem_cons_self⟩, by decide⟩
  | integerOverflow =>
      decide
  | divisionByZero =>
      decide
  | cannotNegate type =>
      cases type <;> decide
  | unsupportedOperands operator left right =>
      have operatorStays : StaysOnLine operator.name := by
        rcases operator with ⟨⟨⟩⟩ | ⟨⟨⟩⟩ | _ | _ | _ | _ <;> decide
      have typeStays (type : ValueType) : StaysOnLine type.name := by
        cases type <;> decide
      unfold message
      iterate 5 rw [staysOnLine_append_iff]
      exact ⟨⟨⟨⟨⟨by decide, operatorStays⟩, by decide⟩, typeStays left⟩,
        by decide⟩, typeStays right⟩

/-- Only the message and the notes can break the text of a diagnostic. -/
theorem Diagnostic.staysOnLine_text_iff (diagnostic : Diagnostic) :
    StaysOnLine diagnostic.text ↔
      StaysOnLine diagnostic.message ∧
        ∀ note ∈ diagnostic.notes, StaysOnLine note := by
  have stage : StaysOnLine diagnostic.stage.name := by
    cases diagnostic.stage <;> decide
  have place : StaysOnLine (placeText diagnostic.position) := by
    cases diagnostic.position with
    | none =>
        decide
    | some position =>
        rw [placeText, staysOnLine_append_iff]
        exact ⟨by decide, position.staysOnLine_text⟩
  have colon : StaysOnLine ": " := by
    decide
  have note (text : String) : StaysOnLine (noteText text) ↔ StaysOnLine text := by
    have opening : StaysOnLine " (note: " := by
      decide
    have closing : StaysOnLine ")" := by
      decide
    simp only [noteText, staysOnLine_append_iff, opening, closing, true_and,
      and_true]
  simp only [text, staysOnLine_append_iff, staysOnLine_join_iff,
    List.forall_mem_map, stage, place, colon, note, true_and, and_true]

/--
The parser refuses a string whose text has a line feed, and shows the text in
a note.
-/
def Script.RefusesBrokenString (files : Files) (path : String) : Prop :=
  ∃ tokens, tokensOfFile files path = .ok tokens ∧
    ∃ token ∈ tokens, token.kind = .string ∧ ¬StaysOnLine token.lexeme ∧
      ∃ fault : SyntaxFault,
        Program.ofTokens tokens =
          .error
            ((fault.located token.position).withNote
              ("found `" ++ token.lexeme ++ "`"))

section Tokens

variable {tokens : List Token}

/-- Only the lexeme of a string in a note can break what the parser says. -/
theorem IsSyntaxFault.staysOnLine_or
    {diagnostic : Diagnostic}
    (isFault : IsSyntaxFault tokens diagnostic)
    (unbroken :
      ∀ token ∈ tokens, token.kind ≠ .string → StaysOnLine token.lexeme) :
    StaysOnLine diagnostic.text ∨
      ∃ token ∈ tokens, token.kind = .string ∧ ¬StaysOnLine token.lexeme ∧
        ∃ fault : SyntaxFault,
          diagnostic =
            (fault.located token.position).withNote
              ("found `" ++ token.lexeme ++ "`") := by
  cases isFault with
  | plain isPlain isPlace =>
      rw [Diagnostic.staysOnLine_text_iff]
      exact .inl ⟨isPlain.staysOnLine_message, nofun⟩
  | @unexpected token member notString =>
      rw [Diagnostic.staysOnLine_text_iff]
      refine .inl ⟨?_, nofun⟩
      unfold SyntaxFault.located Diagnostic.located SyntaxFault.message
      rw [staysOnLine_append_iff, staysOnLine_append_iff]
      exact ⟨⟨by decide, unbroken token member notString⟩, by decide⟩
  | @found fault token isPlain member notEnd =>
      by_cases stays : StaysOnLine token.lexeme
      · rw [Diagnostic.staysOnLine_text_iff]
        refine .inl ⟨isPlain.staysOnLine_message, ?_⟩
        refine List.forall_mem_singleton.2 ?_
        rw [staysOnLine_append_iff, staysOnLine_append_iff]
        exact ⟨⟨by decide, stays⟩, by decide⟩
      · have isString : token.kind = .string := by
          refine Decidable.of_not_not fun notString => ?_
          exact stays (unbroken token member notString)
        exact .inr ⟨token, member, isString, stays, fault, rfl⟩
  | tooDeep isPlace =>
      have isPlain : SyntaxFault.tooDeep.IsPlain :=
        trivial
      rw [Diagnostic.staysOnLine_text_iff]
      refine .inl ⟨isPlain.staysOnLine_message, ?_⟩
      refine List.forall_mem_singleton.2 ?_
      rw [staysOnLine_append_iff, staysOnLine_append_iff]
      exact ⟨⟨by decide, staysOnLine_toString _⟩, by decide⟩
  | integer member isInteger unreadable =>
      rw [Diagnostic.staysOnLine_text_iff]
      have stays : StaysOnLine SyntaxFault.integerOutOfRange.message := by
        decide
      exact .inl ⟨stays, nofun⟩
  | float member isFloat unreadable =>
      rw [Diagnostic.staysOnLine_text_iff]
      have stays : StaysOnLine SyntaxFault.malformedFloat.message := by
        decide
      exact .inl ⟨stays, nofun⟩

/-- What a run of a program says is on one line if its names are. -/
theorem IsRuntimeFault.staysOnLine
    {statements : List Statement}
    {expressions : List Expression}
    {diagnostic : Diagnostic}
    (isFault : IsRuntimeFault statements expressions diagnostic)
    (isMadeOf : ∀ expression ∈ expressions, expression.IsMadeOf tokens)
    (targets : ∀ statement ∈ statements, statement.TargetIsMadeOf tokens)
    (unbroken :
      ∀ token ∈ tokens, token.kind ≠ .string → StaysOnLine token.lexeme) :
    StaysOnLine diagnostic.text := by
  have ofIdentifier
      {token : Token}
      (member : token ∈ tokens)
      (isIdentifier : token.kind = .identifier) :
      StaysOnLine token.lexeme := by
    refine unbroken token member ?_
    rw [isIdentifier]
    decide
  rw [Diagnostic.staysOnLine_text_iff]
  cases isFault with
  | inExpression member isFault =>
      obtain ⟨fault, position, rfl, _, names⟩ := isFault
      refine ⟨RuntimeFault.staysOnLine_message ?_, nofun⟩
      intro name isName
      obtain ⟨token, among, isIdentifier, rfl⟩ :=
        (isMadeOf _ member).names name (names isName)
      exact ofIdentifier among isIdentifier
  | atAssignment member =>
      obtain ⟨token, among, isIdentifier, rfl, _⟩ := targets _ member
      refine ⟨RuntimeFault.staysOnLine_message ?_, nofun⟩
      exact List.forall_mem_singleton.2 (ofIdentifier among isIdentifier)

end Tokens

/-! ### Reports of batch runs -/

/--
A script with a broken string where a token was expected is refused with a
diagnostic that does not stay on its line.
-/
theorem Script.RefusesBrokenString.exists_load
    {files : Files}
    {path : String}
    (refuses : RefusesBrokenString files path) :
    ∃ diagnostic,
      (load files path).outcome = .error (.diagnostic diagnostic) ∧
        ¬StaysOnLine diagnostic.text := by
  obtain ⟨tokens, scanned, token, _, _, isBroken, fault, refused⟩ := refuses
  refine ⟨_, load_eq_error_of_ofTokens scanned refused, ?_⟩
  rw [Diagnostic.staysOnLine_text_iff]
  rintro ⟨_, notes⟩
  have note := notes _ (List.mem_append_right _ List.mem_cons_self)
  rw [staysOnLine_append_iff, staysOnLine_append_iff] at note
  exact isBroken note.1.2

namespace Batch

/-- The report is one line that says what the error is. -/
def IsOneLine (report : String) : Prop :=
  ∃ line, StaysOnLine line ∧ report = "error: " ++ line ++ "\n"

/-- A report is one line if the message of the failure stays on it. -/
theorem isOneLine_reportLine_iff (failure : Failure) :
    IsOneLine (reportLine failure) ↔ StaysOnLine failure.message := by
  constructor
  · rintro ⟨line, stays, same⟩
    unfold reportLine at same
    rw [String.append_left_inj, String.append_right_inj] at same
    rwa [same]
  · intro stays
    exact ⟨failure.message, stays, rfl⟩

section Failures

variable {rounds : Nat}
variable {files : Files}
variable {path : String}
variable {verbosity : Verbosity}
variable {output : Sink}
variable {failure : Failure}

/-- What stops the batch run of the script under a path. -/
inductive StopsWith
    (rounds : Nat)
    (files : Files)
    (path : String)
    (verbosity : Verbosity)
    (output : Sink) :
    Failure → Prop where
  | loading
      {failure : Failure}
      (refused : (Script.load files path).outcome = .error failure) :
      StopsWith rounds files path verbosity output failure
  | running
      {script : Script}
      {failure : Failure}
      {state : Execution}
      (loaded : (Script.load files path).outcome = .ok script)
      (failed :
        runLoaded rounds script verbosity
            ⟨.fresh, output, .start verbosity.traceInterpreter⟩ =
          .failed failure state) :
      StopsWith rounds files path verbosity output failure

/-- A script that is shown and run fails as its run may, or for want of room. -/
theorem mayFailWith_of_runLoaded
    {script : Script}
    {state last : Execution}
    (failed :
      runLoaded rounds script verbosity state = .failed failure last) :
    Statement.MayFailWith script.program.statements failure := by
  unfold runLoaded at failed
  cases shows : verbosity.showPipeline with
  | false =>
      rw [shows] at failed
      exact Program.mayFailWith_of_run failed
  | true =>
      rcases state with ⟨interpreter, output, trace⟩
      rw [shows, if_pos rfl, Execution.deliver] at failed
      rcases written : writePipeline script output with ⟨fits, after⟩
      rw [written] at failed
      cases fits with
      | true =>
          exact Program.mayFailWith_of_run failed
      | false =>
          cases failed
          exact .inl rfl

/-- Whatever stops a batch run, only a broken string breaks its report. -/
theorem StopsWith.staysOnLine_iff
    (stops : StopsWith rounds files path verbosity output failure)
    (pathStays : StaysOnLine path) :
    StaysOnLine failure.message ↔ ¬Script.RefusesBrokenString files path := by
  constructor
  · intro stays refuses
    obtain ⟨diagnostic, refused, isBroken⟩ := refuses.exists_load
    cases stops with
    | loading alsoRefused =>
        rw [refused] at alsoRefused
        cases alsoRefused
        exact isBroken stays
    | running loaded failed =>
        rw [refused] at loaded
        cases loaded
  · intro doesNotRefuse
    cases stops with
    | loading refused =>
        rcases Script.cases_of_load refused with
          rfl | ⟨position, rfl⟩ | ⟨tokens, fault, scanned, parsed, rfl⟩
        · unfold Failure.message
          rw [staysOnLine_append_iff, staysOnLine_append_iff]
          exact ⟨⟨by decide, pathStays⟩, by decide⟩
        · have messageStays : StaysOnLine "unterminated string literal" := by
            decide
          exact (Diagnostic.staysOnLine_text_iff _).2 ⟨messageStays, nofun⟩
        · rcases (Program.isSyntaxFault_of_ofTokens parsed).staysOnLine_or
              fun token member notString =>
                (unbroken_lexeme_of_tokensOfFile scanned member
                  notString).staysOnLine with
            stays | ⟨token, member, isString, isBroken, found, rfl⟩
          · exact stays
          · exact absurd
              ⟨tokens, scanned, token, member, isString, isBroken, found,
                parsed⟩
              doesNotRefuse
    | running loaded failed =>
        rcases mayFailWith_of_runLoaded failed with
          rfl | ⟨diagnostic, rfl, isFault⟩
        · decide
        · obtain ⟨scanned, parsed⟩ := Script.load_eq_ok_iff.1 loaded
          exact isFault.staysOnLine
            (Program.isMadeOf_of_mem_expressions parsed)
            (Program.targetIsMadeOf_of_mem_simpleStatements parsed)
            fun token member notString =>
              (unbroken_lexeme_of_tokensOfFile scanned member
                notString).staysOnLine

/--
A batch that stops reports its failure on the errors and ends with code one.
-/
theorem exists_result_of_stopsWith
    (stops : StopsWith rounds files path verbosity output failure)
    {errors : Sink}
    (unlimited : errors.room = none) :
    ∃ result,
      carryOut rounds files (.run path verbosity) output errors =
          some result ∧
        result.code = 1 ∧
        result.errors.delivered =
          errors.delivered ++ (reportLine failure).toUTF8 := by
  have delivered :
      (errors.write (reportLine failure)).2.delivered =
        errors.delivered ++ (reportLine failure).toUTF8 := by
    rw [Sink.write_of_unlimited unlimited]
  cases stops with
  | loading refused =>
      refine ⟨fail failure output errors
        (wantedEvents verbosity (Script.load files path).events #[]) .fresh,
        ?_, rfl, delivered⟩
      simp only [carryOut, runPath, refused]
  | @running script failure state loaded failed =>
      refine ⟨fail failure state.output errors
        (wantedEvents verbosity (Script.load files path).events
          state.trace.events) state.interpreter, ?_, rfl, delivered⟩
      simp only [carryOut, runPath, loaded, failed]

/--
A batch run that is stopped ends with exit code 1 and one report.  For a path
on one line, the report is one line with its only line feed at the end, unless
the parser refuses a string with a line feed in its text: then the note shows
that text as it is, and the report goes over several lines.
-/
theorem report_isOneLine_iff
    (pathStays : StaysOnLine path)
    (stops : StopsWith rounds files path verbosity output failure)
    {errors : Sink}
    (unlimited : errors.room = none) :
    ∃ result report,
      carryOut rounds files (.run path verbosity) output errors =
          some result ∧
        result.code = 1 ∧
        result.errors.delivered = errors.delivered ++ report.toUTF8 ∧
        (IsOneLine report ↔ ¬Script.RefusesBrokenString files path) := by
  obtain ⟨result, finished, code, delivered⟩ :=
    exists_result_of_stopsWith stops unlimited
  refine ⟨result, reportLine failure, finished, code, delivered, ?_⟩
  rw [isOneLine_reportLine_iff]
  exact stops.staysOnLine_iff pathStays

end Failures

/-- A script that has a string where a name has to be, under every path. -/
def stringInPlaceOfName : Files :=
  fun _ => some "let \"x\\ny\" = 1".toUTF8

/--
A string with a line feed in place of a name makes a report of more than one
line.
-/
theorem stringInPlaceOfName_report_not_isOneLine :
    ∃ result report,
      carryOut 0 stringInPlaceOfName (.run "a.owl" .quiet) .unlimited
          .unlimited = some result ∧
        result.code = 1 ∧
        result.errors.delivered = ByteArray.empty ++ report.toUTF8 ∧
        ¬IsOneLine report := by
  have scanned :
      (tokensOfFile stringInPlaceOfName "a.owl").toOption =
        some
          [⟨.keyword .letWord, "let", ⟨1, 1⟩⟩, ⟨.string, "x\ny", ⟨1, 5⟩⟩,
            ⟨.assign, "=", ⟨1, 12⟩⟩, ⟨.integer, "1", ⟨1, 14⟩⟩,
            ⟨.endOfInput, "", ⟨1, 15⟩⟩] := by
    decide +kernel
  have refuses : Script.RefusesBrokenString stringInPlaceOfName "a.owl" :=
    ⟨_, Except.toOption_eq_some_iff.1 scanned, _,
      List.mem_cons_of_mem _ List.mem_cons_self, rfl, by decide,
      .expectedName, rfl⟩
  obtain ⟨diagnostic, refused, _⟩ := refuses.exists_load
  obtain ⟨result, report, finished, code, delivered, isOneLine⟩ :=
    @report_isOneLine_iff 0 stringInPlaceOfName "a.owl" .quiet .unlimited _
      (by decide) (.loading refused) .unlimited rfl
  exact ⟨result, report, finished, code, delivered,
    fun isLine => isOneLine.1 isLine refuses⟩

end Batch

end OwlScript
