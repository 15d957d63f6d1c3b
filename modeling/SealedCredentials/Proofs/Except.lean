/-!
# Computations that can fail

What a computation of several steps says of its steps, if it gives a result.
-/

set_option autoImplicit false

namespace SealedCredentials

variable {ε α β : Type}

/-- A computation of two steps gives what the second one gives for what the first one gives. -/
theorem bind_eq_ok_iff {first : Except ε α} {next : α → Except ε β} {result : β} :
    first >>= next = .ok result ↔ ∃ value, first = .ok value ∧ next value = .ok result := by
  cases first with
  | error fault =>
    constructor
    · intro given
      cases given
    · rintro ⟨value, impossible, -⟩
      cases impossible
  | ok value =>
    constructor
    · intro given
      exact ⟨value, rfl, given⟩
    · rintro ⟨other, same, given⟩
      cases same
      exact given

theorem map_eq_ok_iff {first : Except ε α} {f : α → β} {result : β} :
    first.map f = .ok result ↔ ∃ value, first = .ok value ∧ f value = result := by
  cases first with
  | error fault => simp [Except.map]
  | ok value => simp [Except.map]

end SealedCredentials
