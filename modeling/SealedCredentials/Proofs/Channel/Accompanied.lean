import SealedCredentials.Proofs.Channel.Coalescing

/-!
# The attempt in the slot has a caller

As long as nobody walks away, the attempt that the slot holds has a caller that waits for it
(`State.Accompanied`).  The caller that begins an attempt waits for it unless its first look ends
it.  Others that stop waiting have seen the end of their own attempt: if it is the one in the slot,
the slot lets go of it, and if not, the caller of the one in the slot is somebody else.
-/

set_option autoImplicit false

namespace SealedCredentials.Channel

variable {config : Config} {transport : Transport}

namespace State

variable {state : State}

/-- Somebody waits for the attempt that the slot holds, if it holds one. -/
def Accompanied (state : State) : Prop :=
  ∀ number, state.slot = .pending number →
    ∃ caller waiter, state.waiter? caller = some waiter ∧ waiter.attempt = number

theorem accompanied_fresh (now : Nat) : (fresh now).Accompanied := by
  intro number held
  cases held

/-- Whoever joins the attempt in the slot accompanies it. -/
theorem accompanied_join {waiter : Waiter} (free : state.waiter? waiter.caller = none)
    (current : state.slot = .pending waiter.attempt) :
    (state.join config waiter).1.Accompanied := by
  intro number held
  rcases state.join_cases config waiter with same | ⟨attempt, outcome, -, -, same⟩
  · rw [same] at held ⊢
    exact ⟨waiter.caller, waiter, waiter?_append_self free,
      Slot.pending.inj (current.symm.trans held)⟩
  · rw [same] at held
    cases outcome with
    | ok material =>
      rw [settle_slot_ok current] at held
      cases held
    | error fault =>
      rw [settle_slot_error current] at held
      cases held

theorem accompanied_call (accompanied : state.Accompanied) (caller : Nat) (call : Call) :
    (state.call config transport caller call).1.Accompanied := by
  cases free : state.waiter? caller with
  | some waiter =>
    rw [State.call, free, Option.isSome_some, if_pos rfl]
    exact accompanied
  | none =>
    rcases state.call_same_or_join config transport caller call with same |
      ⟨purpose, number, seated, -, held, origin, same⟩
    · rw [same]
      exact accompanied
    · rw [same]
      refine accompanied_join ?_ held
      rw [waiter?, (seated_kept origin).2]
      exact free

/-- Whoever has seen the end of its attempt may stop waiting. -/
theorem accompanied_resume (accompanied : state.Accompanied) {caller : Nat} {waiter : Waiter}
    (waits : state.waiter? caller = some waiter) :
    (state.resume config waiter).1.Accompanied := by
  rcases state.resume_cases config waiter with same | ⟨attempt, outcome, -, -, same⟩
  · rw [same]
    exact accompanied
  · rw [same]
    intro number held
    by_cases current : state.slot = .pending waiter.attempt
    · cases outcome with
      | ok material => cases (settle_slot_ok current material).symm.trans held
      | error fault => cases (settle_slot_error current fault).symm.trans held
    · have still : state.slot = .pending number := by
        unfold dismiss settle at held
        rwa [if_neg current] at held
      obtain ⟨other, companion, found, its⟩ := accompanied number still
      have different : waiter.caller ≠ other := by
        rintro rfl
        rw [caller_of_waiter? waits, waits] at found
        cases found
        exact current (still.trans (congrArg Slot.pending its.symm))
      refine ⟨other, companion, ?_, its⟩
      rw [waiter?_dismiss different]
      exact waiter?_of_append found (by rw [settle_waiting, List.append_nil])

/-- **No event but a departure leaves an attempt alone.** -/
theorem accompanied_step (accompanied : state.Accompanied) {event : Event}
    (loyal : ∀ caller, event ≠ .abandon caller) :
    (state.step config transport event).1.Accompanied := by
  cases event with
  | call caller call => exact accompanied_call accompanied caller call
  | resume caller =>
    cases place : state.waiter? caller with
    | none =>
      simp only [step, place]
      exact accompanied
    | some waiter =>
      simp only [step, place]
      exact accompanied_resume accompanied place
  | abandon caller => exact absurd rfl (loyal caller)
  | elapse span => exact accompanied

/-- In a run that nobody leaves, the attempt in the slot always has a caller. -/
theorem run_accompanied (accompanied : state.Accompanied) {events : List Event}
    (loyal : ∀ caller, Event.abandon caller ∉ events) :
    (state.run config transport events).1.Accompanied := by
  induction events generalizing state with
  | nil => exact accompanied
  | cons event later ih =>
    rw [run_cons]
    refine ih (accompanied_step accompanied fun caller same => ?_) fun caller member => ?_
    · exact loyal caller (same ▸ List.mem_cons_self)
    · exact loyal caller (List.mem_cons_of_mem event member)

/-- If nobody waits and there is no key, an accompanied slot is idle. -/
theorem Accompanied.idle_of_quiet (accompanied : state.Accompanied) (quiet : state.waiting = [])
    (keyless : state.isEstablished = false) : state.slot = .idle := by
  cases held : state.slot with
  | idle => rfl
  | pending number =>
    obtain ⟨caller, waiter, found, -⟩ := accompanied number held
    have member := mem_of_waiter? found
    rw [quiet] at member
    cases member
  | established material =>
    rw [isEstablished, held] at keyless
    cases keyless

end State

end SealedCredentials.Channel
