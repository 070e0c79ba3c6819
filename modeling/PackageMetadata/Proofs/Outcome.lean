import PackageMetadata.Outcome

/-!
# Outcomes: what survives sequencing

Two facts about doing one operation after another.  A property of the state that the first
operation leaves, and that the second one keeps, holds in the end.  And two runs whose
operations answer alike, and lead from related states to related states, answer alike.
-/

namespace PackageMetadata
namespace Outcome

universe u v w

variable {σ : Type u} {τ : Type v} {α β : Type w}

/-- What the first operation leaves behind if it fails, and the second one if it is reached,
is so in the end. -/
theorem state_andThen
    {P : σ → Prop}
    {outcome : Outcome σ α}
    {next : α → σ → Outcome σ β}
    (hfailed : ∀ failure, outcome.result = .error failure → P outcome.state)
    (hnext : ∀ value, outcome.result = .ok value → P (next value outcome.state).state) :
    P (outcome.andThen next).state := by
  rcases outcome with ⟨result, state⟩
  cases result with
  | error failure =>
      exact hfailed failure rfl
  | ok value =>
      exact hnext value rfl

@[simp] theorem isOk_map
    (outcome : Outcome σ α)
    (f : α → β) :
    (outcome.map f).result.isOk = outcome.result.isOk := by
  rcases outcome with ⟨result, state⟩
  cases result <;> rfl

/-- A failure does not come from changing the value. -/
theorem result_eq_error_of_map
    {outcome : Outcome σ α}
    {f : α → β}
    {failure : Failure}
    (h : (outcome.map f).result = .error failure) :
    outcome.result = .error failure := by
  rcases outcome with ⟨result, state⟩
  cases result with
  | error other =>
      obtain rfl : other = failure := Except.error.inj h
      rfl
  | ok value =>
      cases h

theorem eq_ok_of_isOk
    {result : Except Failure Unit}
    (h : result.isOk) :
    result = .ok () := by
  cases result with
  | error failure =>
      cases h
  | ok _ =>
      rfl

theorem eq_of_result
    {outcome : Outcome σ α}
    {result : Except Failure α}
    (h : outcome.result = result) :
    outcome = ⟨result, outcome.state⟩ := by
  rw [← h]

theorem andThen_of_ok
    {outcome : Outcome σ α}
    {value : α}
    (h : outcome.result = .ok value)
    (next : α → σ → Outcome σ β) :
    outcome.andThen next = next value outcome.state := by
  rcases outcome with ⟨result, state⟩
  obtain rfl : result = .ok value := h
  rfl

/-- A sequence succeeds if both of its operations do. -/
theorem result_andThen_eq_ok
    {outcome : Outcome σ α}
    {next : α → σ → Outcome σ β}
    {answer : β}
    (h : (outcome.andThen next).result = .ok answer) :
    ∃ value, outcome.result = .ok value ∧
      (next value outcome.state).result = .ok answer ∧
      (outcome.andThen next).state = (next value outcome.state).state := by
  rcases outcome with ⟨result, state⟩
  cases result with
  | error failure =>
      cases h
  | ok value =>
      exact ⟨value, rfl, h, rfl⟩

/-- A sequence fails if one of its operations does. -/
theorem result_andThen_eq_error
    {outcome : Outcome σ α}
    {next : α → σ → Outcome σ β}
    {failure : Failure}
    (h : (outcome.andThen next).result = .error failure) :
    (outcome.result = .error failure ∧ (outcome.andThen next).state = outcome.state) ∨
    ∃ value, outcome.result = .ok value ∧
      (next value outcome.state).result = .error failure ∧
      (outcome.andThen next).state = (next value outcome.state).state := by
  rcases outcome with ⟨result, state⟩
  cases result with
  | error other =>
      obtain rfl : other = failure := Except.error.inj h
      exact .inl ⟨rfl, rfl⟩
  | ok value =>
      exact .inr ⟨value, rfl, h, rfl⟩

/-- The same result, and states that stand in a relation. -/
structure Related
    (R : σ → τ → Prop)
    (m : Outcome σ α)
    (n : Outcome τ α) :
    Prop where
  result : m.result = n.result
  state : R m.state n.state

variable {R : σ → τ → Prop} {m : Outcome σ α} {n : Outcome τ α}

theorem related_map
    (h : Related R m n)
    (f : α → β) :
    Related R (m.map f) (n.map f) :=
  ⟨congrArg (Except.map f) h.result, h.state⟩

/-- Related operations in a row are related. -/
theorem related_andThen
    {f : α → σ → Outcome σ β}
    {g : α → τ → Outcome τ β}
    (h : Related R m n)
    (hnext : ∀ value, R m.state n.state → Related R (f value m.state) (g value n.state)) :
    Related R (m.andThen f) (n.andThen g) := by
  rcases m with ⟨result, s⟩
  rcases n with ⟨result', t⟩
  obtain ⟨hresult, hstate⟩ := h
  obtain rfl : result = result' := hresult
  cases result with
  | error failure =>
      exact ⟨rfl, hstate⟩
  | ok value =>
      exact hnext value hstate

end Outcome
end PackageMetadata
