import PackageMetadata.Failure

/-!
# Outcomes

An operation on something that changes answers with a result and with the state that it
leaves behind.  There is a state after a failure, too, since a failing operation may have
done part of its work.
-/

namespace PackageMetadata

universe u v w

/-- The result of an operation and the state after it. -/
structure Outcome
    (σ : Type u)
    (α : Type v) where
  result : Except Failure α
  state : σ

namespace Outcome

variable {σ : Type u} {τ : Type v} {α β : Type w}

/-- Success with a value. -/
def done
    (value : α)
    (state : σ) :
    Outcome σ α :=
  ⟨.ok value, state⟩

/-- A failure. -/
def failed
    (failure : Failure)
    (state : σ) :
    Outcome σ α :=
  ⟨.error failure, state⟩

/-- Goes on with the value and the state of a success; a failure ends the work. -/
def andThen
    (outcome : Outcome σ α)
    (next : α → σ → Outcome σ β) :
    Outcome σ β :=
  match outcome with
  | ⟨.ok value, state⟩ => next value state
  | ⟨.error failure, state⟩ => ⟨.error failure, state⟩

/-- Changes the value of a success. -/
def map
    (outcome : Outcome σ α)
    (f : α → β) :
    Outcome σ β :=
  ⟨outcome.result.map f, outcome.state⟩

/-- Shows the state as part of another one. -/
def mapState
    (outcome : Outcome σ α)
    (f : σ → τ) :
    Outcome τ α :=
  ⟨outcome.result, f outcome.state⟩

@[simp] theorem result_done
    (value : α)
    (state : σ) :
    (done value state).result = .ok value :=
  rfl

@[simp] theorem state_done
    (value : α)
    (state : σ) :
    (done value state).state = state :=
  rfl

@[simp] theorem result_failed
    (failure : Failure)
    (state : σ) :
    (failed failure state : Outcome σ α).result = .error failure :=
  rfl

@[simp] theorem state_failed
    (failure : Failure)
    (state : σ) :
    (failed failure state : Outcome σ α).state = state :=
  rfl

@[simp] theorem andThen_done
    (value : α)
    (state : σ)
    (next : α → σ → Outcome σ β) :
    (done value state).andThen next = next value state :=
  rfl

@[simp] theorem andThen_failed
    (failure : Failure)
    (state : σ)
    (next : α → σ → Outcome σ β) :
    (failed failure state : Outcome σ α).andThen next = failed failure state :=
  rfl

@[simp] theorem result_map
    (outcome : Outcome σ α)
    (f : α → β) :
    (outcome.map f).result = outcome.result.map f :=
  rfl

@[simp] theorem state_map
    (outcome : Outcome σ α)
    (f : α → β) :
    (outcome.map f).state = outcome.state :=
  rfl

@[simp] theorem result_mapState
    (outcome : Outcome σ α)
    (f : σ → τ) :
    (outcome.mapState f).result = outcome.result :=
  rfl

@[simp] theorem state_mapState
    (outcome : Outcome σ α)
    (f : σ → τ) :
    (outcome.mapState f).state = f outcome.state :=
  rfl

end Outcome
end PackageMetadata
