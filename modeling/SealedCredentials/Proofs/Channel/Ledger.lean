import SealedCredentials.Proofs.Channel.Moves

/-!
# The ledger of attempts

All attempts of a channel but the last have failed; the last one is what the slot speaks of,
unless the slot is idle and the last one has failed too (`Ledger`).  Every move keeps this
(`Ledger.move`).

From it follows the point of the guard on the slot: an attempt that the slot no longer holds has
an end that is already written down, and to look at it changes nothing (`Ledger.settle_stale`).
-/

set_option autoImplicit false

namespace SealedCredentials.Channel

open SealedCredentials.Envelope

variable {config : Config} {transport : Transport}

/-! ## Entries -/

/-- How the ledger ends: with the attempt that the slot speaks of, if it speaks of one. -/
def Slot.current : Slot → List (Option Outcome)
  | .idle => []
  | .pending _ => [none]
  | .established material => [some (.ok material)]

/-- All attempts have failed but the last, which is the one that the slot speaks of. -/
structure Ledger (state : State) (faults : List HandshakeFault) : Prop where
  outcomes : state.attempts.map Attempt.outcome =
    (faults.map fun fault => some (.error fault)) ++ state.slot.current
  number : ∀ number, state.slot = .pending number → number = faults.length

namespace Ledger

variable {state : State} {faults : List HandshakeFault}

theorem length_attempts (ledger : Ledger state faults) :
    state.attempts.length = faults.length + state.slot.current.length := by
  have lengths := congrArg List.length ledger.outcomes
  rwa [List.length_map, List.length_append, List.length_map] at lengths

/-- An attempt has failed, or it is the last one and the slot speaks of it. -/
theorem failed_or_current (ledger : Ledger state faults) {number : Nat} {attempt : Attempt}
    (found : state.attempts[number]? = some attempt) :
    (∃ fault, attempt.outcome = some (.error fault)) ∨
      number = faults.length ∧ state.slot.current = [attempt.outcome] := by
  have entry : ((faults.map fun fault => some (.error fault)) ++ state.slot.current)[number]? =
      some attempt.outcome := by
    rw [← ledger.outcomes, List.getElem?_map, found, Option.map_some]
  rcases Nat.lt_or_ge number faults.length with early | late
  · left
    rw [List.getElem?_append_left (by rwa [List.length_map]), List.getElem?_map,
      Option.map_eq_some_iff] at entry
    obtain ⟨fault, -, same⟩ := entry
    exact ⟨fault, same.symm⟩
  · right
    rw [List.getElem?_append_right (by rwa [List.length_map]), List.length_map] at entry
    cases held : state.slot with
    | idle =>
      rw [held, Slot.current, List.getElem?_nil] at entry
      cases entry
    | pending current =>
      rw [held, Slot.current, List.getElem?_singleton, Option.ite_none_right_eq_some] at entry
      rw [Slot.current, Option.some.inj entry.2]
      exact ⟨by omega, rfl⟩
    | established material =>
      rw [held, Slot.current, List.getElem?_singleton, Option.ite_none_right_eq_some] at entry
      rw [Slot.current, Option.some.inj entry.2]
      exact ⟨by omega, rfl⟩

/-- An attempt whose end is not known is the one that the slot holds. -/
theorem slot_of_unfinished (ledger : Ledger state faults) {number : Nat} {attempt : Attempt}
    (found : state.attempts[number]? = some attempt) (unfinished : attempt.outcome = none) :
    state.slot = .pending number := by
  rcases ledger.failed_or_current found with ⟨fault, failed⟩ | ⟨last, current⟩
  · rw [unfinished] at failed
    cases failed
  · rw [unfinished] at current
    cases held : state.slot with
    | idle =>
      rw [held] at current
      cases current
    | established material =>
      rw [held] at current
      cases current
    | pending holding => rw [last, ledger.number holding held]

/-- The attempt that the slot holds is there, and its end is not known. -/
theorem unfinished_of_slot (ledger : Ledger state faults) {number : Nat}
    (held : state.slot = .pending number) :
    ∃ attempt, state.attempts[number]? = some attempt ∧ attempt.outcome = none := by
  have entry : (state.attempts.map Attempt.outcome)[number]? = some none := by
    rw [ledger.outcomes, held, ledger.number number held]
    simp [Slot.current]
  rw [List.getElem?_map, Option.map_eq_some_iff] at entry
  exact entry

/-- The key comes from the last attempt. -/
theorem last_of_established (ledger : Ledger state faults) {material : Material}
    (held : state.slot = .established material) :
    ∃ attempt, state.attempts[faults.length]? = some attempt ∧
      attempt.outcome = some (.ok material) := by
  have entry : (state.attempts.map Attempt.outcome)[faults.length]? =
      some (some (.ok material)) := by
    rw [ledger.outcomes, held]
    simp [Slot.current]
  rw [List.getElem?_map, Option.map_eq_some_iff] at entry
  exact entry

/-- An attempt that succeeded has filled the slot, and the slot still holds its key. -/
theorem established_of_ok (ledger : Ledger state faults) {number : Nat} {attempt : Attempt}
    {material : Material} (found : state.attempts[number]? = some attempt)
    (succeeded : attempt.outcome = some (.ok material)) :
    state.slot = .established material := by
  rcases ledger.failed_or_current found with ⟨fault, failed⟩ | ⟨last, current⟩
  · rw [succeeded] at failed
    cases failed
  · rw [succeeded] at current
    cases held : state.slot with
    | idle =>
      rw [held] at current
      cases current
    | pending holding =>
      rw [held] at current
      cases current
    | established other =>
      rw [held] at current
      cases current
      rfl

/-- **A look at an attempt that the slot does not hold changes nothing.** -/
theorem settle_stale (ledger : Ledger state faults) {number : Nat} {attempt : Attempt}
    {outcome : Outcome} (found : state.attempts[number]? = some attempt)
    (seen : attempt.look config state.now = some outcome)
    (other : state.slot ≠ .pending number) : state.settle number outcome = state := by
  cases known : attempt.outcome with
  | none => exact absurd (ledger.slot_of_unfinished found known) other
  | some written =>
    rw [Attempt.look, known] at seen
    have same : written = outcome := Option.some.inj seen
    subst same
    exact State.settle_of_known found known other

/-! ## Moves -/

theorem fresh (now : Nat) : Ledger (.fresh now) [] where
  outcomes := rfl
  number := by
    intro number held
    cases held

theorem start (ledger : Ledger state faults) (idle : state.slot = .idle) :
    Ledger (state.start config transport) faults where
  outcomes := by
    have before := ledger.outcomes
    rw [idle, Slot.current, List.append_nil] at before
    simp [State.start, Slot.current, before]
  number := by
    intro number held
    have same : state.attempts.length = number := Slot.pending.inj held
    rw [← same, ledger.length_attempts, idle]
    rfl

/-- The end of the attempt that the slot holds is the last entry. -/
theorem outcomes_settle (ledger : Ledger state faults) {number : Nat}
    (held : state.slot = .pending number) (outcome : Outcome) :
    (state.settle number outcome).attempts.map Attempt.outcome =
      (faults.map fun fault => some (.error fault)) ++ [some outcome] := by
  have last : faults.length = number := (ledger.number number held).symm
  rw [State.map_outcome_settle, ledger.outcomes, held, Slot.current,
    List.set_append_right _ _ (Nat.le_of_eq (by rw [List.length_map, last])), List.length_map,
    last, Nat.sub_self, List.set_cons_zero]

theorem settle (ledger : Ledger state faults) {number : Nat} {attempt : Attempt}
    {outcome : Outcome} (found : state.attempts[number]? = some attempt)
    (seen : attempt.look config state.now = some outcome) :
    ∃ faults, Ledger (state.settle number outcome) faults := by
  by_cases held : state.slot = .pending number
  · cases outcome with
    | ok material =>
      refine ⟨faults, ?_, ?_⟩
      · rw [ledger.outcomes_settle held, State.settle_slot_ok held, Slot.current]
      · intro other impossible
        rw [State.settle_slot_ok held] at impossible
        cases impossible
    | error fault =>
      refine ⟨faults ++ [fault], ?_, ?_⟩
      · rw [ledger.outcomes_settle held, State.settle_slot_error held, Slot.current,
          List.append_nil, List.map_append, List.map_singleton]
      · intro other impossible
        rw [State.settle_slot_error held] at impossible
        cases impossible
  · rw [ledger.settle_stale found seen held]
    exact ⟨faults, ledger⟩

/-- Every move keeps a ledger, perhaps with one more failure in it. -/
theorem move (ledger : Ledger state faults) {next : State}
    (taken : Move config transport state next) : ∃ faults, Ledger next faults := by
  cases taken with
  | start idle => exact ⟨faults, ledger.start idle⟩
  | settle found seen => exact ledger.settle found seen
  | enlist current purpose => exact ⟨faults, ledger.outcomes, ledger.number⟩
  | dismiss caller => exact ⟨faults, ledger.outcomes, ledger.number⟩
  | elapse span => exact ⟨faults, ledger.outcomes, ledger.number⟩

end Ledger

end SealedCredentials.Channel
