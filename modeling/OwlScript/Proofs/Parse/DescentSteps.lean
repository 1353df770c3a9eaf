import OwlScript.Parse.Descent
import OwlScript.Proofs.Parse.Reading

namespace OwlScript

/-!
# Steps of a descent

A descent by index does what the parser does on the tokens that are left.  The
parser may be shown all of them, or only those up to some place behind the
first end token, since neither moves on beyond that token.  To follow the
parser, the descent gives what the parser gives, at the height of it, or stops
with the same fault.  It never comes to a failure of its own, and it leaves
every call that it counted.
-/

namespace Descent

/-- The descent one token further. -/
def moved (descent : Descent) : Descent :=
  { descent with current := descent.current + 1 }

/--
The parser is shown the tokens that the descent has left, but for those behind
an end token.
-/
structure Shows
    (behind : List Token)
    (descent : Descent)
    (state : ParseState) : Prop where
  ahead : descent.slice.drop descent.current = state.rest ++ behind
  ending :
    behind = [] ∧
        state.ending = (ParseState.ofTokens descent.slice).ending ∨
      ∃ token ∈ state.rest, token.kind = .endOfInput
  inSlice : descent.current ≤ descent.slice.length
  events : descent.events = state.events

/-- All the tokens that the descent has left. -/
def shown (descent : Descent) : ParseState where
  rest := descent.slice.drop descent.current
  ending := (ParseState.ofTokens descent.slice).ending
  events := descent.events

/-- Within its slice, a descent can be followed on all the tokens left. -/
theorem shows_shown
    {descent : Descent}
    (inSlice : descent.current ≤ descent.slice.length) :
    descent.Shows [] descent.shown where
  ahead := (List.append_nil _).symm
  ending := .inl ⟨rfl, rfl⟩
  inSlice := inSlice
  events := rfl

/-- What every parser leaves as it was, however it ends. -/
structure Keeps (before after : Descent) : Prop where
  slice : after.slice = before.slice
  depth : after.depth = before.depth
  current_le : before.current ≤ after.current

namespace Keeps

variable {first second third : Descent}

/-- Doing nothing keeps what is to be kept. -/
theorem refl (descent : Descent) : Keeps descent descent :=
  ⟨rfl, rfl, Nat.le_refl _⟩

/-- What two steps keep, they keep one after the other. -/
theorem trans (before : Keeps first second) (after : Keeps second third) :
    Keeps first third where
  slice := after.slice.trans before.slice
  depth := after.depth.trans before.depth
  current_le := Nat.le_trans before.current_le after.current_le

/-- Going one token further keeps what is to be kept. -/
theorem moved (descent : Descent) : Keeps descent descent.moved :=
  ⟨rfl, rfl, Nat.le_succ _⟩

end Keeps

namespace Shows

variable {behind : List Token}
variable {descent : Descent}
variable {state : ParseState}
variable {token : Token}

/-- Both have the same next token. -/
theorem next?_eq (shows : Shows behind descent state) :
    descent.next? = state.rest.head? := by
  have here : descent.next? = (state.rest ++ behind).head? := by
    rw [← shows.ahead, List.head?_drop]
    rfl
  rw [here]
  cases rest : state.rest with
  | nil =>
      rcases shows.ending with whole | ⟨token, member, _⟩
      · rw [whole.1]
        rfl
      · rw [rest] at member
        cases member
  | cons first later =>
      rfl

/-- In front of the end, both have the same token behind the next one. -/
theorem second?_eq
    (shows : Shows behind descent state)
    (isNext : state.rest.head? = some token)
    (notEnd : token.kind ≠ .endOfInput) :
    descent.slice[descent.current + 1]? = state.rest[1]? := by
  have there :
      descent.slice[descent.current + 1]? = (state.rest ++ behind)[1]? := by
    rw [← shows.ahead, List.getElem?_drop]
  rw [there]
  match rest : state.rest with
  | [] =>
      rw [rest] at isNext
      cases isNext
  | [only] =>
      rw [rest] at isNext
      cases isNext
      rcases shows.ending with whole | ⟨ending, member, isEnd⟩
      · rw [whole.1]
        rfl
      · rw [rest] at member
        rw [List.mem_singleton.1 member] at isEnd
        exact absurd isEnd notEnd
  | first :: second :: later =>
      rfl

/-- How many tokens the parser is shown. -/
theorem length_rest (shows : Shows behind descent state) :
    state.rest.length + behind.length =
      descent.slice.length - descent.current := by
  rw [← List.length_append, ← shows.ahead, List.length_drop]

/-- A round for each of the tokens left is fewer than there are. -/
theorem length_rest_lt_rounds (shows : Shows behind descent state) :
    state.rest.length < descent.rounds := by
  have length := shows.length_rest
  simp only [Descent.rounds]
  omega

/-- Where no token is left, both place a fault at the same position. -/
theorem ending_eq
    {ending : Position}
    {events : Array ParseEvent}
    (shows : Shows behind descent ⟨[], ending, events⟩) :
    ending = descent.place := by
  have whole := shows.ending.resolve_right nofun
  have noNext : descent.next? = none := shows.next?_eq
  rw [Descent.place, noNext]
  exact whole.2

/-- Both place a fault at the same position. -/
theorem place_eq (shows : Shows behind descent state) :
    Parse.place state = .ok descent.place state := by
  obtain ⟨rest, ending, events⟩ := state
  cases rest with
  | nil =>
      rw [← shows.ending_eq]
      rfl
  | cons token later =>
      have isNext : descent.next? = some token := shows.next?_eq
      rw [Descent.place, isNext]
      rfl

/-- The descent and the parser stay together when both take a token. -/
theorem moved
    (shows : Shows behind descent state)
    (isNext : state.rest.head? = some token)
    (notEnd : token.kind ≠ .endOfInput) :
    Shows behind descent.moved { state with rest := state.rest.tail } := by
  obtain ⟨rest, ending, events⟩ := state
  cases rest with
  | nil =>
      cases isNext
  | cons first later =>
      obtain rfl : first = token := Option.some.inj isNext
      have ahead : descent.slice.drop descent.current =
          first :: (later ++ behind) :=
        shows.ahead
      have inside : descent.current < descent.slice.length := by
        apply Nat.lt_of_not_le
        intro beyond
        rw [List.drop_of_length_le beyond] at ahead
        cases ahead
      constructor
      · have further := congrArg List.tail ahead
        rw [List.tail_drop] at further
        exact further
      · rcases shows.ending with whole | ⟨ending, member, isEnd⟩
        · exact .inl whole
        · rcases List.mem_cons.1 member with isFirst | inLater
          · rw [isFirst] at isEnd
            exact absurd isEnd notEnd
          · exact .inr ⟨ending, inLater, isEnd⟩
      · exact inside
      · exact shows.events

end Shows

end Descent

/-! ### Single steps of the descent -/

/-- The parser's look at the next token leaves its state. -/
theorem Parse.peek?_apply (state : ParseState) :
    peek? state = .ok state.rest.head? state :=
  rfl

namespace Descend

variable {behind : List Token}
variable {descent : Descent}
variable {state : ParseState}
variable {token : Token}

/-- A descent in two steps goes on from where the first step stops. -/
theorem bind_apply
    (descend : Descend α)
    (next : α → Descend β)
    (descent : Descent) :
    (descend >>= next) descent =
      match descend descent with
      | .ok value final => next value final
      | .error stop final => .error stop final := by
  simp only [bind, EStateM.bind]
  cases descend descent <;> rfl

/-- A descent that asks for its own state is given it. -/
theorem get_bind_apply (next : Descent → Descend β) (descent : Descent) :
    (get >>= next) descent = next descent descent :=
  rfl

/-- The look of the descent at the next token leaves it where it is. -/
theorem peek?_apply (descent : Descent) :
    peek? descent = .ok descent.next? descent :=
  rfl

/-- The token that was taken last is the one in front of the next one. -/
theorem previous_moved
    (isNext : descent.next? = some token) :
    previous descent.moved = .ok token descent.moved := by
  have here : descent.moved.slice[descent.moved.current - 1]? = some token :=
    isNext
  rw [previous, get_bind_apply, here]
  rfl

/-- Unless at the end, the index moves on, and then there is a look back. -/
theorem advance_apply (descent : Descent) :
    advance descent =
      previous (if descent.isAtEnd then descent else descent.moved) :=
  rfl

/-- The descent is not at the end if a token is next that is not the end. -/
theorem isAtEnd_eq_false_iff (descent : Descent) :
    descent.isAtEnd = false ↔
      ∃ token, descent.next? = some token ∧ token.kind ≠ .endOfInput := by
  rw [Descent.isAtEnd]
  cases descent.next? with
  | none =>
      simp
  | some token =>
      simp

/-- In front of the end, a token is taken and given. -/
theorem advance_of_next
    (isNext : descent.next? = some token)
    (notEnd : token.kind ≠ .endOfInput) :
    advance descent = .ok token descent.moved := by
  have inFront : descent.isAtEnd = false :=
    (isAtEnd_eq_false_iff descent).2 ⟨token, isNext, notEnd⟩
  rw [advance_apply, inFront, if_neg Bool.false_ne_true]
  exact previous_moved isNext

/-- A step on the tokens alone, and what comes of it. -/
theorem check_apply (kind : TokenKind) (descent : Descent) :
    check kind descent =
      .ok (descent.next?.any (·.kind == kind)) descent := by
  rw [check, get_bind_apply]
  cases descent.next? <;> rfl

/-- A token of the kind that is asked for is taken. -/
theorem accept_of_next
    {kind : TokenKind}
    (isNext : descent.next? = some token)
    (isKind : token.kind = kind)
    (notEnd : kind ≠ .endOfInput) :
    accept kind descent = .ok true descent.moved := by
  rw [accept, bind_apply, check_apply, isNext]
  simp only [Option.any_some, isKind, beq_self_eq_true, if_true]
  rw [bind_apply, advance_of_next isNext (isKind ▸ notEnd)]
  rfl

/-- A token of another kind is left. -/
theorem accept_of_other
    {kind : TokenKind}
    (isOther : descent.next?.any (·.kind == kind) = false) :
    accept kind descent = .ok false descent := by
  rw [accept, bind_apply, check_apply, isOther]
  rfl

end Descend

/-! ### Agreement -/

/--
The descent does what the parser does: it gives a related value at a height,
or stops with the same fault, and keeps its slice and its open calls.
-/
inductive Follows
    {α β : Type}
    (relates : α → β → Nat → Prop)
    (behind : List Token)
    (before : Descent) :
    EStateM.Result Diagnostic ParseState α →
      EStateM.Result Stop Descent β → Prop where
  | ok
      {value : α}
      {other : β}
      {final : ParseState}
      {after : Descent}
      (related : relates value other after.height)
      (shows : after.Shows behind final)
      (keeps : before.Keeps after) :
      Follows relates behind before (.ok value final) (.ok other after)
  | error
      {fault : Diagnostic}
      {final : ParseState}
      {after : Descent}
      (events : after.events = final.events)
      (keeps : before.Keeps after) :
      Follows relates behind before (.error fault final)
        (.error (.reported fault) after)

/-- From every state shown to it, the parser is followed by the descent. -/
def Tracks
    {α β : Type}
    (relates : α → β → Nat → Prop)
    (behind : List Token)
    (depth : Nat)
    (parser : Parse α)
    (descend : Descend β) :
    Prop :=
  ∀ ⦃descent : Descent⦄ ⦃state : ParseState⦄,
    descent.Shows behind state →
    descent.depth = depth →
    Follows relates behind descent (parser state) (descend descent)

/-- The same expression, and its height is the one kept. -/
def SizedExpression.IsKept
    (sized : SizedExpression)
    (expression : Expression)
    (height : Nat) : Prop :=
  sized.expression = expression ∧ sized.height = height

/-- The same value at any height. -/
def IsSame {α : Type} (value other : α) (_height : Nat) : Prop :=
  value = other

section Follows

variable {α β γ δ : Type}
variable {relates : α → β → Nat → Prop}
variable {goal : γ → δ → Nat → Prop}
variable {behind : List Token}
variable {depth : Nat}
variable {descent before : Descent}
variable {state : ParseState}

/-- What was kept up to here is kept from further back. -/
theorem Follows.from
    {result : EStateM.Result Diagnostic ParseState α}
    {other : EStateM.Result Stop Descent β}
    (kept : before.Keeps descent)
    (follows : Follows relates behind descent result other) :
    Follows relates behind before result other := by
  cases follows with
  | ok related shows keeps =>
      exact .ok related shows (kept.trans keeps)
  | error events keeps =>
      exact .error events (kept.trans keeps)

/-- Steps that agree follow each other, the second on what the first reads. -/
theorem Follows.bindRun
    {parser : Parse α}
    {next : α → Parse γ}
    {descend : Descend β}
    {otherNext : β → Descend δ}
    (first :
      Follows relates behind descent (parser state) (descend descent))
    (second :
      ∀ ⦃value other final after⦄,
        parser state = .ok value final →
        relates value other after.height →
        after.Shows behind final →
        descent.Keeps after →
        Follows goal behind after (next value final) (otherNext other after)) :
    Follows goal behind descent ((parser >>= next) state)
      ((descend >>= otherNext) descent) := by
  rw [Parse.bind_apply, Descend.bind_apply]
  generalize parser state = result at first second
  generalize descend descent = other at first
  cases first with
  | ok related shows keeps =>
      exact (second rfl related shows keeps).from keeps
  | error events keeps =>
      exact .error events keeps

/-- Steps that agree follow each other. -/
theorem Follows.bind
    {parser : Parse α}
    {next : α → Parse γ}
    {descend : Descend β}
    {otherNext : β → Descend δ}
    (first :
      Follows relates behind descent (parser state) (descend descent))
    (second :
      ∀ ⦃value other final after⦄,
        relates value other after.height →
        after.Shows behind final →
        descent.Keeps after →
        Follows goal behind after (next value final) (otherNext other after)) :
    Follows goal behind descent ((parser >>= next) state)
      ((descend >>= otherNext) descent) :=
  first.bindRun fun _ _ _ _ _ related shows keeps =>
    second related shows keeps

/-- A fault that the descent reports is the one the parser throws. -/
theorem Follows.report
    {fault : Diagnostic}
    (shows : descent.Shows behind state) :
    Follows relates behind descent ((throw fault : Parse α) state)
      ((Descend.report fault : Descend β) descent) :=
  .error shows.events (.refl descent)

/-- Both record the same event. -/
theorem Follows.record
    (event : ParseEvent)
    {next : Unit → Parse γ}
    {otherNext : Unit → Descend δ}
    (shows : descent.Shows behind state)
    (follows :
      ∀ ⦃after final⦄, after.Shows behind final → descent.Keeps after →
        final.rest = state.rest →
          Follows goal behind after (next () final) (otherNext () after)) :
    Follows goal behind descent ((Parse.record event >>= next) state)
      ((Descend.record event >>= otherNext) descent) := by
  have showsRecorded :
      Descent.Shows behind
        { descent with events := descent.events.push event }
        { state with events := state.events.push event } :=
    ⟨shows.ahead, shows.ending, shows.inSlice,
      congrArg (Array.push · event) shows.events⟩
  have keeps :
      descent.Keeps { descent with events := descent.events.push event } :=
    ⟨rfl, rfl, Nat.le_refl _⟩
  exact (follows showsRecorded keeps rfl).from keeps

/-- Later states are shown fewer tokens. -/
theorem Descent.Shows.length_rest_le
    {after : Descent}
    {final : ParseState}
    (shows : descent.Shows behind state)
    (showsAfter : after.Shows behind final)
    (keeps : descent.Keeps after) :
    final.rest.length ≤ state.rest.length := by
  have before := shows.length_rest
  have later := showsAfter.length_rest
  have inSlice := showsAfter.inSlice
  have further := keeps.current_le
  rw [keeps.slice] at later
  omega

end Follows

end OwlScript
