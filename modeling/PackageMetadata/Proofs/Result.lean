/-!
# Results whose value or error is changed

Readers change the value of a result on its way up, and say more about its error.  Neither
turns a success into a failure or the other way round.
-/

namespace PackageMetadata
namespace Result

universe u v w

variable {ε : Type u} {ε' : Type v} {α β : Type w}

theorem map_eq_ok_iff
    {f : α → β}
    {result : Except ε α}
    {value : β} :
    result.map f = .ok value ↔ ∃ a, result = .ok a ∧ f a = value := by
  constructor
  · intro h
    cases result with
    | error fault =>
        cases h
    | ok a =>
        exact ⟨a, rfl, Except.ok.inj h⟩
  · rintro ⟨a, rfl, rfl⟩
    rfl

theorem map_eq_error_iff
    {f : α → β}
    {result : Except ε α}
    {fault : ε} :
    result.map f = .error fault ↔ result = .error fault := by
  constructor
  · intro h
    cases result with
    | error fault' =>
        rw [← Except.error.inj h]
    | ok a =>
        cases h
  · rintro rfl
    rfl

theorem mapError_eq_ok_iff
    {f : ε → ε'}
    {result : Except ε α}
    {value : α} :
    result.mapError f = .ok value ↔ result = .ok value := by
  constructor
  · intro h
    cases result with
    | error fault =>
        cases h
    | ok a =>
        rw [← Except.ok.inj h]
  · rintro rfl
    rfl

theorem mapError_eq_error_iff
    {f : ε → ε'}
    {result : Except ε α}
    {fault : ε'} :
    result.mapError f = .error fault ↔ ∃ e, result = .error e ∧ f e = fault := by
  constructor
  · intro h
    cases result with
    | error e =>
        exact ⟨e, rfl, Except.error.inj h⟩
    | ok a =>
        cases h
  · rintro ⟨e, rfl, rfl⟩
    rfl

end Result
end PackageMetadata
