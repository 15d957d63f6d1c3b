import SealedCredentials.Proofs.Channel.Accompanied
import SealedCredentials.Proofs.Channel.Succession

/-!
# Failure leaves no trace

Let a channel have run, with any number of callers and failures, and let nobody have walked away
from an attempt.  When nobody waits and there is no key, the slot is idle: an attempt under way
would still have a caller (`State.run_accompanied`).  Such a state is a new channel but for the
attempts behind it (`State.eq_after_of_idle`), and a run cannot see these.  So whatever happens
next goes as on a channel that nobody has used and that gets the replies still to come
(`State.failure_leaves_no_trace`).
-/

set_option autoImplicit false

namespace SealedCredentials.Channel

open SealedCredentials.Agreement

variable {config : Config} {transport : Transport}

namespace State

/-- An idle channel that nobody waits on is a new one with a past. -/
theorem eq_after_of_idle {state : State} (idle : state.slot = .idle)
    (quiet : state.waiting = []) : state = (fresh state.now).after state.attempts := by
  obtain ⟨now, slot, attempts, waiting⟩ := state
  subst idle
  subst quiet
  simp only [after, fresh, List.append_nil, List.map_nil]
  rfl

/-- **Failure leaves no trace.**  After a run that nobody left, once nobody waits and there is no
key, the slot is idle, and any continuation makes the same requests at the same instants, gives the
same answers and ends in the same state as on a new channel of the same configuration that gets the
same exchanges; only the attempts of the past stand before the new ones. -/
theorem failure_leaves_no_trace (config : Config) (transport : Transport) (start : Nat)
    (events : List Event) (loyal : ∀ caller, Event.abandon caller ∉ events)
    (quiet : ((fresh start).run config transport events).1.waiting = [])
    (keyless : ((fresh start).run config transport events).1.isEstablished = false) :
    let state := ((fresh start).run config transport events).1
    state.slot = .idle ∧
      ∀ later : List Event,
        let anew := (fresh state.now).run config (transport.after state.attempts.length) later
        state.run config transport later = (anew.1.after state.attempts, anew.2) := by
  intro state
  have accompanied : state.Accompanied := run_accompanied (accompanied_fresh start) loyal
  have idle : state.slot = .idle := accompanied.idle_of_quiet quiet keyless
  refine ⟨idle, ?_⟩
  intro later anew
  have past := eq_after_of_idle idle quiet
  calc state.run config transport later
      = ((fresh state.now).after state.attempts).run config transport later :=
        congrArg (run config transport · later) past
    _ = (anew.1.after state.attempts, anew.2) := run_after state.attempts (fresh state.now) later

/-- Two callers share a refusal, and a third one waits in vain: the fourth caller finds a new
channel. -/
theorem failure_leaves_no_trace_after_two :
    let config : Config := ⟨KeyPair.withExponent Group.legacy.parameters 5, 10⟩
    let transport : Transport := fun number _ =>
      match number with
      | 0 => ⟨some 5, .ok (.rejected "closed")⟩
      | 1 => ⟨none, .error (.transport "lost")⟩
      | _ => ⟨some 0, .ok (.accepted "7")⟩
    let state := ((fresh 0).run config transport [.call 0 .ensure, .call 1 .ensure, .elapse 5,
      .resume 1, .resume 0, .call 2 .ensure, .elapse 10, .resume 2]).1
    state.attempts.length = 2 ∧ state.slot = .idle ∧
      ∀ later : List Event,
        let anew := (fresh 15).run config (transport.after 2) later
        state.run config transport later = (anew.1.after state.attempts, anew.2) := by
  intro config transport state
  have result := failure_leaves_no_trace config transport 0 [.call 0 .ensure, .call 1 .ensure,
    .elapse 5, .resume 1, .resume 0, .call 2 .ensure, .elapse 10, .resume 2] (by simp) rfl rfl
  exact ⟨rfl, result⟩

end State

end SealedCredentials.Channel
