import SealedCredentials.Proofs.Agreement.KeyPair
import SealedCredentials.Proofs.Channel.Answers
import Mathlib.Tactic.Choose

/-!
# Single flight

However calls, looks, departures and delays interleave, a channel makes no more exchanges than it
must.  At most one is unfinished; there are as many as have failed, and one more unless the slot
is idle; each was begun by a call of its own, and once there is a key none is begun any more
(`State.single_flight`).

The count is read off the ledger.  That every exchange has a call of its own follows a run from
its beginning: an event begins at most one attempt, and only a call begins any
(`State.step_begins`).
-/

set_option autoImplicit false

namespace SealedCredentials.Channel

open SealedCredentials.Agreement SealedCredentials.Envelope

variable {config : Config} {transport : Transport}

/-! ## Counting the ledger -/

/-- Whether an end is known and is a failure. -/
def isFailure : Option Outcome → Bool
  | some (.error _) => true
  | _ => false

namespace Attempt

/-- Whether the end of an attempt is still to come. -/
def unfinished (attempt : Attempt) : Bool := attempt.outcome.isNone

/-- Whether an attempt has ended without a key. -/
def failed (attempt : Attempt) : Bool := isFailure attempt.outcome

end Attempt

namespace Ledger

variable {state : State} {faults : List HandshakeFault}

/-- What is counted of the attempts may be counted of the ledger. -/
theorem countP_attempts (ledger : Ledger state faults) (counted : Option Outcome → Bool) :
    state.attempts.countP (counted ∘ Attempt.outcome) =
      (faults.map fun fault => some (.error fault)).countP counted +
        state.slot.current.countP counted := by
  rw [← List.countP_map, ledger.outcomes, List.countP_append]

/-- At most one attempt is unfinished. -/
theorem countP_unfinished_le (ledger : Ledger state faults) :
    state.attempts.countP Attempt.unfinished ≤ 1 := by
  have count := ledger.countP_attempts Option.isNone
  rw [List.countP_map, show Option.isNone ∘ Attempt.outcome = Attempt.unfinished from rfl] at count
  rw [count, List.countP_eq_zero.mpr (by simp), Nat.zero_add]
  refine Nat.le_trans List.countP_le_length ?_
  cases state.slot <;> simp [Slot.current]

/-- The failures of the ledger are the attempts that failed. -/
theorem countP_failed (ledger : Ledger state faults) :
    state.attempts.countP Attempt.failed = faults.length := by
  have count := ledger.countP_attempts isFailure
  rw [List.countP_map, show isFailure ∘ Attempt.outcome = Attempt.failed from rfl] at count
  have all : faults.countP (isFailure ∘ fun fault => some (.error fault)) = faults.length :=
    List.countP_eq_length.mpr fun _ _ => rfl
  have rest : state.slot.current.countP isFailure = 0 := by
    cases state.slot <;> rfl
  rw [count, all, rest, Nat.add_zero]

end Ledger

/-! ## What begins an attempt -/

namespace State

variable {state : State}

theorem length_settle (state : State) (number : Nat) (outcome : Outcome) :
    (state.settle number outcome).attempts.length = state.attempts.length := by
  rw [settle_attempts, List.length_modify]

theorem length_join (state : State) (config : Config) (waiter : Waiter) :
    (state.join config waiter).1.attempts.length = state.attempts.length := by
  rcases state.join_cases config waiter with same | ⟨attempt, outcome, -, -, same⟩
  · rw [same]
  · rw [same, length_settle]

theorem length_resume (state : State) (config : Config) (waiter : Waiter) :
    (state.resume config waiter).1.attempts.length = state.attempts.length := by
  rcases state.resume_cases config waiter with same | ⟨attempt, outcome, -, -, same⟩
  · rw [same]
  · rw [same]
    exact length_settle state waiter.attempt outcome

/-- A call begins at most one attempt. -/
theorem length_call (config : Config) (transport : Transport) (state : State) (caller : Nat)
    (call : Call) :
    (state.call config transport caller call).1.attempts.length = state.attempts.length ∨
      (state.call config transport caller call).1.attempts.length =
        state.attempts.length + 1 := by
  rcases state.call_same_or_join config transport caller call with same |
    ⟨purpose, number, seated, -, -, origin, same⟩
  · exact .inl (by rw [same])
  · rw [same, length_join]
    rcases origin with rfl | ⟨-, -, rfl⟩
    · exact .inl rfl
    · right
      rw [start, List.length_append, List.length_singleton]

/-- An event begins no attempt, or it is a call and begins one. -/
theorem step_begins (config : Config) (transport : Transport) (state : State) (event : Event) :
    (state.step config transport event).1.attempts.length = state.attempts.length ∨
      (∃ caller call, event = .call caller call) ∧
        (state.step config transport event).1.attempts.length = state.attempts.length + 1 := by
  cases event with
  | call caller call =>
    rcases state.length_call config transport caller call with same | one
    · exact .inl same
    · exact .inr ⟨⟨caller, call, rfl⟩, one⟩
  | resume caller =>
    left
    rw [step]
    cases state.waiter? caller with
    | none => rfl
    | some waiter => exact state.length_resume config waiter
  | abandon caller => exact .inl rfl
  | elapse span => exact .inl rfl

/-- The event at a place of a run is a call, and it begins the attempt of the number. -/
def Begins (config : Config) (transport : Transport) (state : State) (events : List Event)
    (number place : Nat) : Prop :=
  (∃ caller call, events[place]? = some (.call caller call)) ∧
    (state.run config transport (events.take place)).1.attempts.length = number ∧
    (state.run config transport (events.take (place + 1))).1.attempts.length = number + 1

/-- Every attempt of a run was begun by a call of the run. -/
theorem exists_begins (state : State) (events : List Event) {number : Nat}
    (new : state.attempts.length ≤ number)
    (begun : number < (state.run config transport events).1.attempts.length) :
    ∃ place, Begins config transport state events number place := by
  induction events generalizing state with
  | nil => exact absurd begun (Nat.not_lt.mpr new)
  | cons event later ih =>
    rcases Nat.lt_or_ge number (state.step config transport event).1.attempts.length with
      now | after
    · rcases state.step_begins config transport event with equal | ⟨⟨caller, call, same⟩, one⟩
      · omega
      · have here : state.attempts.length = number := by omega
        refine ⟨0, ⟨caller, call, by rw [same]; rfl⟩, here, ?_⟩
        rw [List.take_succ_cons, List.take_zero, run_cons, run_nil, one, here]
    · obtain ⟨place, ⟨caller, call, found⟩, before, next⟩ := ih _ after begun
      exact ⟨place + 1, ⟨caller, call, found⟩, before, next⟩

/-! ## The main result -/

/-- **Single flight and write-once.**  After any events, at most one exchange is unfinished; the
exchanges are as many as have failed, and one more unless the slot is idle; they are what the
transport made of the channel's request, in order; each was begun by a call of its own.  Once
there is a key, it stays and no exchange is made any more. -/
theorem single_flight (config : Config) (transport : Transport) (start : Nat)
    (events : List Event) :
    let final := ((fresh start).run config transport events).1
    final.attempts.countP Attempt.unfinished ≤ 1 ∧
      final.attempts.length =
        final.attempts.countP Attempt.failed + (if final.slot = .idle then 0 else 1) ∧
      final.attempts.map Attempt.exchange =
        (List.range final.attempts.length).map (fun number => transport number config.request) ∧
      (∃ place : Fin final.attempts.length → Nat, Function.Injective place ∧
        ∀ number : Fin final.attempts.length,
          Begins config transport (fresh start) events number (place number)) ∧
      ∀ material, final.slot = .established material → ∀ later : List Event,
        (final.run config transport later).1.slot = .established material ∧
          (final.run config transport later).1.attempts = final.attempts := by
  intro final
  have invariant : Invariant config transport final := .run start events
  obtain ⟨faults, ledger⟩ := invariant.ledger
  refine ⟨ledger.countP_unfinished_le, ?_, ?_, ?_, ?_⟩
  · rw [ledger.length_attempts, ledger.countP_failed]
    cases final.slot <;> rfl
  · refine List.ext_getElem? fun number => ?_
    rw [List.getElem?_map, List.getElem?_map]
    cases found : final.attempts[number]? with
    | none =>
      rw [List.getElem?_eq_none (by simpa using found)]
      rfl
    | some attempt =>
      rw [List.getElem?_range (List.getElem?_eq_some_iff.mp found).1]
      exact congrArg some (invariant.genuine number attempt found).exchange
  · have begun : ∀ number : Fin final.attempts.length,
        ∃ place, Begins config transport (fresh start) events number place := fun number =>
      exists_begins _ events (Nat.zero_le number) number.isLt
    choose place begins using begun
    refine ⟨place, ?_, begins⟩
    intro first second same
    have former := (begins first).2.1
    rw [same, (begins second).2.1] at former
    exact Fin.ext former.symm
  · intro material held later
    exact invariant.run_established held later

/-- A refused exchange and a successful one leave a key that later events cannot touch. -/
theorem single_flight_after_retry :
    let config : Config := ⟨KeyPair.withExponent Group.legacy.parameters 5, 10⟩
    let transport : Transport := fun number _ =>
      match number with
      | 0 => ⟨some 0, .error (.transport "refused")⟩
      | _ => ⟨some 0, .ok (.accepted (Arithmetic.Decimal.ofNat 7))⟩
    let final := ((fresh 0).run config transport [.call 0 .ensure, .call 1 .ensure]).1
    ∃ material, final.slot = .established material ∧ ∀ later : List Event,
      (final.run config transport later).1.slot = .established material ∧
        (final.run config transport later).1.attempts = final.attempts := by
  intro config transport final
  have refusal : transport (fresh 0).attempts.length config.request =
      ⟨some 0, .error (.transport "refused")⟩ := rfl
  have refused : ((fresh 0).step config transport (.call 0 .ensure)).1 =
      ((fresh 0).start config transport).settle 0 (.error (.transport "refused")) := by
    rw [step_call_prompt rfl rfl rfl refusal]
    rfl
  have shared : config.pair.shareText (Arithmetic.Decimal.ofNat 7) =
      .ok ⟨7 ^ 5 % Group.legacy.parameters.modulus⟩ :=
    KeyPair.shareText_eq_ok_iff.mpr ⟨7, Arithmetic.Decimal.parse_ofNat 7, by decide, rfl⟩
  have concluded : config.conclude (.ok (.accepted (Arithmetic.Decimal.ofNat 7))) =
      .ok (.ofSecret ⟨7 ^ 5 % Group.legacy.parameters.modulus⟩) :=
    Config.conclude_eq_ok_iff.mpr ⟨_, _, rfl, shared, rfl⟩
  have held : final.slot = .established (.ofSecret ⟨7 ^ 5 % Group.legacy.parameters.modulus⟩) := by
    change ((fresh 0).run config transport [.call 0 .ensure, .call 1 .ensure]).1.slot = _
    rw [run_cons, refused, run_cons, run_nil, step_call_prompt rfl rfl rfl rfl, concluded]
    rfl
  exact ⟨_, held, (single_flight config transport 0 _).2.2.2.2 _ held⟩

end State

end SealedCredentials.Channel
