namespace Except

/-!
# Values and faults

A computation comes to a value or to a fault.  These lemmas say where the value
or the fault of a composed computation comes from, and what is left of it if
its faults are changed.
-/

variable {ε δ α β : Type}
variable {first : Except ε α}

/-- A sequence has a value if its first part has one and it goes on from it. -/
theorem bind_eq_ok_iff
    {next : α → Except ε β}
    {result : β} :
    (first >>= next) = .ok result ↔
      ∃ value, first = .ok value ∧ next value = .ok result := by
  cases first with
  | error fault =>
      constructor
      · nofun
      · rintro ⟨_, ⟨⟩, _⟩
  | ok value =>
      constructor
      · exact fun goesOn => ⟨value, rfl, goesOn⟩
      · rintro ⟨_, ⟨⟩, goesOn⟩
        exact goesOn

/-- A sequence has the fault of its first part, or else of what follows. -/
theorem bind_eq_error_iff
    {next : α → Except ε β}
    {fault : ε} :
    (first >>= next) = .error fault ↔
      first = .error fault ∨ ∃ value, first = .ok value ∧
        next value = .error fault := by
  cases first with
  | error found =>
      constructor
      · rintro ⟨⟩
        exact .inl rfl
      · rintro (⟨⟨⟩⟩ | ⟨_, ⟨⟩, _⟩)
        rfl
  | ok value =>
      constructor
      · exact fun failed => .inr ⟨value, rfl, failed⟩
      · rintro (failed | ⟨_, ⟨⟩, failed⟩)
        · cases failed
        · exact failed

/-- A changed value is the change of a value. -/
theorem map_eq_ok_iff
    {change : α → β}
    {result : β} :
    first.map change = .ok result ↔
      ∃ value, first = .ok value ∧ change value = result := by
  cases first with
  | error fault =>
      exact ⟨nofun, fun ⟨_, isValue, _⟩ => nomatch isValue⟩
  | ok value =>
      constructor
      · rintro ⟨⟩
        exact ⟨value, rfl, rfl⟩
      · rintro ⟨_, ⟨⟩, rfl⟩
        rfl

/-- With the fault left out, there is a value exactly if there was one. -/
theorem toOption_eq_some_iff {value : α} :
    first.toOption = some value ↔ first = .ok value := by
  cases first with
  | error fault =>
      exact ⟨nofun, nofun⟩
  | ok found =>
      constructor
      · rintro ⟨⟩
        rfl
      · rintro ⟨⟩
        rfl

section Faults

variable {change : ε → δ}

/-- A change of the fault leaves a value as it is. -/
theorem mapError_eq_ok_iff {value : α} :
    first.mapError change = .ok value ↔ first = .ok value := by
  cases first with
  | error fault =>
      exact ⟨nofun, nofun⟩
  | ok found =>
      constructor
      · rintro ⟨⟩
        rfl
      · rintro ⟨⟩
        rfl

/-- A changed fault is the change of a fault. -/
theorem mapError_eq_error_iff {fault : δ} :
    first.mapError change = .error fault ↔
      ∃ found, first = .error found ∧ change found = fault := by
  cases first with
  | error found =>
      constructor
      · rintro ⟨⟩
        exact ⟨found, rfl, rfl⟩
      · rintro ⟨_, ⟨⟩, rfl⟩
        rfl
  | ok value =>
      exact ⟨nofun, fun ⟨_, isFault, _⟩ => nomatch isFault⟩

variable (change)

/-- The faults of a sequence are changed part by part. -/
theorem mapError_bind
    (first : Except ε α)
    (next : α → Except ε β) :
    (first >>= next).mapError change =
      first.mapError change >>= fun value => (next value).mapError change := by
  cases first <;> rfl

/-- A value that is given back is left as it is. -/
theorem mapError_pure (value : α) :
    (pure value : Except ε α).mapError change = pure value :=
  rfl

/-- A value is left as it is. -/
theorem mapError_ok (value : α) :
    (Except.ok value : Except ε α).mapError change = .ok value :=
  rfl

end Faults

end Except
