import OwlScript.Parse.Program

namespace OwlScript

/-!
# What parsers read

Two statements about a parser on given tokens.  The first says what comes of
it for certain: a value with the tokens left behind it, or, where that is not
allowed, the refusal of nesting beyond the limit.  The second says what holds
of everything that the parser reads.  Either is put together along the steps
of a parser, so no later proof looks at states.
-/

namespace Parse

/-- A step and the parser that goes on with what it read. -/
theorem bind_apply
    (parser : Parse α)
    (next : α → Parse β)
    (state : ParseState) :
    (parser >>= next) state =
      match parser state with
      | .ok value final => next value final
      | .error fault final => .error fault final := by
  simp only [bind, EStateM.bind]
  cases parser state <;> rfl

/--
On the tokens the parser reads the value and leaves the rest.  If that is not
allowed, it refuses because of nesting beyond the limit.
-/
def Reads
    (parser : Parse α)
    (tokens : List Token)
    (allowed : Prop)
    (value : α)
    (rest : List Token) :
    Prop :=
  ∀ state : ParseState, state.rest = tokens →
    (allowed →
      ∃ final, parser state = .ok value final ∧ final.rest = rest) ∧
    (¬allowed →
      ∃ position final, parser state = .error (tooDeepAt position) final)

/--
Whatever the parser reads from the tokens, the condition holds of the tokens
that it took, the value, and the tokens that it left.
-/
def Ensures
    (parser : Parse α)
    (tokens : List Token)
    (condition : List Token → α → List Token → Prop) :
    Prop :=
  ∀ (state : ParseState) (value : α) (final : ParseState),
    state.rest = tokens →
    parser state = .ok value final →
    ∃ taken, tokens = taken ++ final.rest ∧ condition taken value final.rest

namespace Reads

variable {parser : Parse α} {next : α → Parse β}
variable {tokens middle rest : List Token}
variable {allowed nextAllowed : Prop}
variable {value : α} {result : β}

/-- A parser that never refuses reads what it gives. -/
theorem of_ok
    (reads :
      ∀ state : ParseState, state.rest = tokens →
        ∃ final, parser state = .ok value final ∧ final.rest = rest) :
    Reads parser tokens True value rest := by
  intro state here
  exact ⟨fun _ => reads state here, fun never => (never trivial).elim⟩

/-- What is read may be allowed in other words. -/
theorem congr
    {other : Prop}
    (reads : Reads parser tokens allowed value rest)
    (same : allowed ↔ other) :
    Reads parser tokens other value rest := by
  rwa [← propext same]

/-- A value is read from no tokens. -/
theorem pure (value : α) (tokens : List Token) :
    Reads (Pure.pure value) tokens True value tokens :=
  of_ok fun state here => ⟨state, rfl, here⟩

/-- Two steps are allowed if both are. -/
theorem bind
    (first : Reads parser tokens allowed value middle)
    (second : Reads (next value) middle nextAllowed result rest) :
    Reads (parser >>= next) tokens (allowed ∧ nextAllowed) result rest := by
  intro state here
  rw [bind_apply]
  by_cases may : allowed
  · obtain ⟨between, run, there⟩ := (first state here).1 may
    rw [run]
    simpa [may] using second between there
  · obtain ⟨position, final, run⟩ := (first state here).2 may
    rw [run]
    constructor
    · intro both
      exact (may both.1).elim
    · intro _
      exact ⟨position, final, rfl⟩

/-- A step that is always allowed, and what goes on with it. -/
theorem step
    (first : Reads parser tokens True value middle)
    (second : Reads (next value) middle nextAllowed result rest) :
    Reads (parser >>= next) tokens nextAllowed result rest :=
  (first.bind second).congr (iff_of_eq (true_and nextAllowed))

/-- A last step that only puts the value in its place. -/
theorem finish
    (first : Reads parser tokens allowed value middle)
    (second : Reads (next value) middle True result rest) :
    Reads (parser >>= next) tokens allowed result rest :=
  (first.bind second).congr (iff_of_eq (and_true allowed))

end Reads

namespace Ensures

variable {parser : Parse α} {next : α → Parse β}
variable {tokens middle : List Token}
variable {condition weaker : List Token → α → List Token → Prop}
variable {goal : List Token → β → List Token → Prop}

/-- A condition may be weakened. -/
theorem weaken
    (ensures : Ensures parser tokens condition)
    (weakens :
      ∀ taken value rest,
        tokens = taken ++ rest →
        condition taken value rest →
        weaker taken value rest) :
    Ensures parser tokens weaker := by
  intro state value final here run
  obtain ⟨taken, shape, holds⟩ := ensures state value final here run
  exact ⟨taken, shape, weakens taken value final.rest shape holds⟩

/-- A value takes no tokens. -/
theorem pure
    {value : α}
    (holds : condition [] value tokens) :
    Ensures (Pure.pure value) tokens condition := by
  intro state read final here run
  cases run
  exact ⟨[], here.symm, by rwa [here]⟩

/-- A parser that throws ensures anything of what it reads. -/
theorem throw (fault : Diagnostic) :
    Ensures (MonadExcept.throw fault) tokens condition := by
  intro state value final here run
  cases run

/-- What the first step ensures goes into what the next one has to ensure. -/
theorem bind
    (first : Ensures parser tokens condition)
    (second :
      ∀ taken value rest,
        tokens = taken ++ rest →
        condition taken value rest →
        Ensures (next value) rest
          fun more result last => goal (taken ++ more) result last) :
    Ensures (parser >>= next) tokens goal := by
  intro state result final here run
  rw [bind_apply] at run
  cases firstRun : parser state with
  | error fault between =>
      rw [firstRun] at run
      cases run
  | ok value between =>
      rw [firstRun] at run
      obtain ⟨taken, shape, holds⟩ := first state value between here firstRun
      obtain ⟨more, moreShape, reached⟩ :=
        second taken value between.rest shape holds between result final rfl run
      refine ⟨taken ++ more, ?_, reached⟩
      rw [shape, moreShape, List.append_assoc]

/-- If only one value can be read, the condition has to hold of that one. -/
theorem of_reads
    (taken : List Token)
    {allowed : Prop}
    {value : α}
    (reads : Reads parser (taken ++ middle) allowed value middle)
    (holds : condition taken value middle) :
    Ensures parser (taken ++ middle) condition := by
  intro state read final here run
  by_cases may : allowed
  · obtain ⟨certain, certainRun, there⟩ := (reads state here).1 may
    rw [certainRun] at run
    cases run
    exact ⟨taken, by rw [there], by rwa [there]⟩
  · obtain ⟨position, failed, failure⟩ := (reads state here).2 may
    rw [failure] at run
    cases run

/-- A step that can read only one value, and what goes on with it. -/
theorem step
    (taken : List Token)
    {allowed : Prop}
    {value : α}
    (first : Reads parser (taken ++ middle) allowed value middle)
    (second :
      Ensures (next value) middle
        fun more result last => goal (taken ++ more) result last) :
    Ensures (parser >>= next) (taken ++ middle) goal := by
  have certain :
      Ensures parser (taken ++ middle)
        fun found read rest =>
          found = taken ∧ read = value ∧ rest = middle :=
    of_reads taken first ⟨rfl, rfl, rfl⟩
  apply certain.bind
  rintro found read rest _ ⟨rfl, rfl, rfl⟩
  exact second

end Ensures

/-- Looking at the next token takes nothing. -/
theorem reads_peek? (tokens : List Token) :
    Reads peek? tokens True tokens.head? tokens :=
  .of_ok fun state here => ⟨state, by rw [← here]; rfl, here⟩

/-- Looking at the second token takes nothing. -/
theorem reads_peekSecond? (tokens : List Token) :
    Reads peekSecond? tokens True tokens[1]? tokens :=
  .of_ok fun state here => ⟨state, by rw [← here]; rfl, here⟩

/-- Looking at all tokens takes nothing. -/
theorem reads_remaining (tokens : List Token) :
    Reads remaining tokens True tokens tokens :=
  .of_ok fun state here => ⟨state, by rw [← here]; rfl, here⟩

/-- The place of a token is its position. -/
theorem reads_place (token : Token) (tokens : List Token) :
    Reads place (token :: tokens) True token.position (token :: tokens) := by
  apply Reads.of_ok
  rintro ⟨rest, ending, events⟩ here
  cases here
  exact ⟨_, rfl, rfl⟩

/-- One token is taken off. -/
theorem reads_advance (token : Token) (tokens : List Token) :
    Reads advance (token :: tokens) True () tokens :=
  .of_ok fun state here => ⟨_, rfl, by simp [here]⟩

/-- Events take nothing. -/
theorem reads_record (event : ParseEvent) (tokens : List Token) :
    Reads (record event) tokens True () tokens :=
  .of_ok fun _ here => ⟨_, rfl, here⟩

/-- All semicolons in front are taken off. -/
theorem reads_skipSemicolons (tokens : List Token) :
    Reads skipSemicolons tokens True ()
      (tokens.dropWhile (·.kind == .semicolon)) :=
  .of_ok fun state here => ⟨_, rfl, by simp [here]⟩

/-- Beyond the limit nothing is read. -/
theorem reads_refuseDepth
    (tokens : List Token)
    (value : α)
    (rest : List Token) :
    Reads refuseDepth tokens False value rest := by
  intro state here
  refine ⟨False.elim, fun _ => ?_⟩
  rw [refuseDepth, bind_apply]
  rcases state with ⟨_ | ⟨token, later⟩, ending, events⟩
  · exact ⟨ending, _, rfl⟩
  · exact ⟨token.position, _, rfl⟩

/-- Where nothing is read, anything is ensured. -/
theorem ensures_refuseDepth
    (tokens : List Token)
    {condition : List Token → α → List Token → Prop} :
    Ensures refuseDepth tokens condition := by
  intro state value final here run
  obtain ⟨position, failed, failure⟩ :=
    (reads_refuseDepth tokens value tokens state here).2 not_false
  rw [failure] at run
  cases run

/-- Whether the next token is of a kind. -/
theorem reads_nextIs (kind : TokenKind) (tokens : List Token) :
    Reads (nextIs kind) tokens True
      (tokens.head?.any fun token => token.kind == kind) tokens := by
  refine (reads_peek? tokens).step ?_
  cases tokens with
  | nil =>
      exact .pure false []
  | cons token later =>
      exact .pure (token.kind == kind) (token :: later)

/-- Whether the second token is of a kind. -/
theorem reads_secondIs (kind : TokenKind) (tokens : List Token) :
    Reads (secondIs kind) tokens True
      (tokens[1]?.any fun token => token.kind == kind) tokens := by
  refine (reads_peekSecond? tokens).step ?_
  cases tokens[1]? with
  | none =>
      exact .pure false tokens
  | some token =>
      exact .pure (token.kind == kind) tokens

/-- A token of the kind is taken off. -/
theorem reads_accept_true
    {kind : TokenKind}
    {token : Token}
    (same : token.kind = kind)
    (tokens : List Token) :
    Reads (accept kind) (token :: tokens) True true tokens := by
  refine (reads_nextIs kind (token :: tokens)).step ?_
  simp only [List.head?_cons, Option.any_some, same, beq_self_eq_true,
    ↓reduceIte]
  exact (reads_advance token tokens).step (.pure true tokens)

/-- Without a token of the kind nothing is taken off. -/
theorem reads_accept_false
    {kind : TokenKind}
    {tokens : List Token}
    (other : ∀ token ∈ tokens.head?, token.kind ≠ kind) :
    Reads (accept kind) tokens True false tokens := by
  refine (reads_nextIs kind tokens).step ?_
  have differs :
      (tokens.head?.any fun token => token.kind == kind) = false := by
    cases tokens with
    | nil =>
        rfl
    | cons token later =>
        exact beq_eq_false_iff_ne.mpr (other token rfl)
  simp only [differs, Bool.false_eq_true, ↓reduceIte]
  exact .pure false tokens

/-- The token that is asked for is taken off. -/
theorem reads_expect
    {kind : TokenKind}
    {token : Token}
    (same : token.kind = kind)
    (fault : SyntaxFault)
    (tokens : List Token) :
    Reads (expect kind fault) (token :: tokens) True token tokens := by
  refine (reads_peek? (token :: tokens)).step ?_
  simp only [List.head?_cons, same, beq_self_eq_true, ↓reduceIte]
  exact (reads_advance token tokens).step (.pure token tokens)

/-- Only a token that is asked for is read. -/
theorem ensures_expect
    (kind : TokenKind)
    (fault : SyntaxFault)
    (tokens : List Token) :
    Ensures (expect kind fault) tokens
      fun taken token _ => taken = [token] ∧ token.kind = kind := by
  refine .step [] (reads_peek? tokens) ?_
  cases tokens with
  | nil =>
      intro state value final here run
      cases run
  | cons token later =>
      by_cases same : token.kind = kind
      · simp only [List.head?_cons, same, beq_self_eq_true, ↓reduceIte]
        refine .step [token] (reads_advance token later) ?_
        exact .pure ⟨rfl, same⟩
      · simp only [List.head?_cons, beq_eq_false_iff_ne.mpr same,
          Bool.false_eq_true, ↓reduceIte]
        split
        · exact .throw _
        · exact .throw _

/-- A token is taken off exactly if it is of the kind. -/
theorem ensures_accept (kind : TokenKind) (tokens : List Token) :
    Ensures (accept kind) tokens fun taken accepted rest =>
      (accepted = true ∧ ∃ token, taken = [token] ∧ token.kind = kind) ∨
      (accepted = false ∧ taken = [] ∧ rest = tokens) := by
  by_cases other : ∀ token ∈ tokens.head?, token.kind ≠ kind
  · exact .of_reads [] (reads_accept_false other) (.inr ⟨rfl, rfl, rfl⟩)
  · cases tokens with
    | nil =>
        exact (other nofun).elim
    | cons token later =>
        have same : token.kind = kind := by
          simpa using other
        exact .of_reads [token] (reads_accept_true same later)
          (.inl ⟨rfl, token, rfl, same⟩)

/-- Only semicolons are skipped. -/
theorem ensures_skipSemicolons (tokens : List Token) :
    Ensures skipSemicolons tokens fun taken _ _ =>
      ∀ token ∈ taken, token.kind = .semicolon := by
  intro state value final here run
  cases run
  refine ⟨tokens.takeWhile (·.kind == .semicolon), ?_, ?_⟩
  · simp only [here, List.takeWhile_append_dropWhile]
  · intro token member
    simpa using List.all_eq_true.mp List.all_takeWhile token member

end Parse

end OwlScript
