import SealedCredentials.Client.Alone
import SealedCredentials.Proofs.Channel.Alone
import SealedCredentials.Proofs.Client.Log
import SealedCredentials.Proofs.Client.Verdict

/-!
# A caller alone is answered

On a client on which nobody waits (`State.IsCalm`), a call for the key is answered: at once if there
is a key (`State.perform_of_established`), and otherwise after one key exchange, whose end is the
answer (`State.perform_of_idle`).  In between the caller looks once, at the instant at which the key
exchange ends.
-/

set_option autoImplicit false

namespace SealedCredentials.Client.State

variable {config : Config} {wire : Http.Wire} {state : State}

/-- Nobody waits. -/
structure IsCalm (state : State) : Prop where
  tasks : state.tasks = []
  waiting : state.channel.waiting = []

namespace IsCalm

theorem fresh (now : Nat) : (State.fresh now).IsCalm := ⟨rfl, rfl⟩

theorem task? (calm : state.IsCalm) (caller : Nat) : state.task? caller = none := by
  rw [State.task?, calm.tasks, List.find?_nil]

theorem waiter? (calm : state.IsCalm) (caller : Nat) : state.channel.waiter? caller = none := by
  rw [Channel.State.waiter?, calm.waiting, List.find?_nil]

theorem isBusy (calm : state.IsCalm) (caller : Nat) : state.isBusy caller = false :=
  not_isBusy_iff.mpr ⟨calm.task? caller, calm.waiter? caller⟩

end IsCalm

/-- The client after a call of the channel, and the answer to it. -/
theorem step_channel (config : Config) (wire : Http.Wire) {caller : Nat}
    (free : state.isBusy caller = false) (call : Channel.Call) :
    let called := state.channel.call config.channel (config.transport wire) caller call
    state.step config wire (.call caller (.channel call)) =
      (state.onto called.1, called.2.map fun result =>
        ⟨caller, .channel call, state.channel.now, state.channel.now, relay result⟩) := by
  intro called
  rw [step, if_neg (by rw [free]; exact Bool.false_ne_true)]
  simp only [State.call, Option.map_map]
  rfl

/-- A call that is answered at once. -/
theorem perform_of_answered {call : Call} {next : State} {answer : Answer}
    (answered : state.step config wire (.call 0 call) = (next, some answer)) :
    state.perform config wire call = (next, some answer.result) := by
  simp only [perform, answered, await, Option.map_some]

/-- A call for the key is served at once if there is a key. -/
theorem perform_of_established (config : Config) (wire : Http.Wire) (calm : state.IsCalm)
    {material : Envelope.Material} (held : state.channel.slot = .established material)
    {call : Channel.Call} {purpose : Channel.Purpose} (needed : call.purpose = .ok purpose) :
    state.perform config wire (.channel call) =
      (state, some (.ok (.channel (purpose.serve material)))) := by
  have served := Channel.State.call_of_established config.channel (config.transport wire)
    (calm.waiter? 0) needed held
  have stepped := step_channel config wire (calm.isBusy 0) call
  rw [served] at stepped
  exact perform_of_answered stepped

/-- A caller of the channel that waits alone gets the end of its attempt when it looks again. -/
theorem step_resume_channel (config : Config) (wire : Http.Wire) (state : State) {caller : Nat}
    (idle : state.task? caller = none) {waiter : Channel.Waiter}
    (waits : state.channel.waiter? caller = some waiter) {attempt : Channel.Attempt}
    {outcome : Channel.Outcome} (found : state.channel.attempts[waiter.attempt]? = some attempt)
    (seen : attempt.look config.channel state.channel.now = some outcome) :
    state.step config wire (.resume caller) =
      (state.onto ((state.channel.settle waiter.attempt outcome).dismiss waiter.caller),
        some ⟨caller, .channel waiter.call, waiter.begun, state.channel.now,
          relay (waiter.purpose.conclude outcome)⟩) := by
  have looked := Channel.State.look_of_seen found seen
  simp only [step, idle, waits, Channel.State.resume, looked, Option.map_some]
  rfl

/-- A call that waits for an attempt is answered with its end, at the instant at which it is due. -/
theorem perform_of_waiting {call : Call} (idle : state.task? 0 = none) {channel : Channel.State}
    (unanswered : state.step config wire (.call 0 call) = (state.onto channel, none))
    {waiter : Channel.Waiter} (waits : channel.waiter? 0 = some waiter) {attempt : Channel.Attempt}
    (found : channel.attempts[waiter.attempt]? = some attempt)
    (early : channel.now ≤ attempt.dueAt config.channel.limit) {outcome : Channel.Outcome}
    (seen : attempt.look config.channel (attempt.dueAt config.channel.limit) = some outcome) :
    let due : Channel.State := { channel with now := attempt.dueAt config.channel.limit }
    state.perform config wire call =
      (state.onto ((due.settle waiter.attempt outcome).dismiss waiter.caller),
        some (relay (waiter.purpose.conclude outcome))) := by
  intro due
  have next : (state.onto channel).dueAt? config 0 = some (attempt.dueAt config.channel.limit) := by
    have idle : (state.onto channel).task? 0 = none := idle
    have there : channel.dueAt? config.channel 0 = some (attempt.dueAt config.channel.limit) := by
      rw [Channel.State.dueAt?, waits]
      simp only [Option.bind_eq_bind, Option.bind_some, found]
      rfl
    simp only [State.dueAt?, idle]
    exact there
  have passed : (state.onto channel).step config wire
      (.elapse (attempt.dueAt config.channel.limit - channel.now)) = (state.onto due, none) := by
    have reaches : channel.now + (attempt.dueAt config.channel.limit - channel.now) =
        attempt.dueAt config.channel.limit := Nat.add_sub_of_le early
    simp only [step, onto, reaches]
    rfl
  have looked : (state.onto due).step config wire (.resume 0) = _ :=
    step_resume_channel config wire (state.onto due) idle waits found seen
  have now : (state.onto channel).channel.now = channel.now := rfl
  simp only [perform, unanswered, await, next, now, passed, looked, Option.map_some]
  rfl

/-- A client after a call for the key that nobody shared: one key exchange more, which has ended. -/
structure Exchanged (config : Config) (wire : Http.Wire) (before : State)
    (outcome : Channel.Outcome) (after : State) : Prop extends after.IsCalm where
  ends : ∃ instant, outcome =
    (before.channel.nextAttempt config.channel (config.transport wire)).outcomeAt config.channel
      instant
  sent : after.sent = before.sent
  slot : after.channel.slot = .ofOutcome outcome
  attempts : after.channel.attempts = before.channel.attempts ++
    [{ before.channel.nextAttempt config.channel (config.transport wire) with
      outcome := some outcome }]

/-- **A call for the key, made before there is one, is answered with the end of one key exchange**,
which the call begins. -/
theorem perform_of_idle (config : Config) (wire : Http.Wire) (calm : state.IsCalm)
    (idle : state.channel.slot = .idle) {call : Channel.Call} {purpose : Channel.Purpose}
    (needed : call.purpose = .ok purpose) :
    ∃ after outcome, Exchanged config wire state outcome after ∧
      state.perform config wire (.channel call) =
        (after, some (relay (purpose.conclude outcome))) := by
  let attempt := state.channel.nextAttempt config.channel (config.transport wire)
  let begun := state.channel.start config.channel (config.transport wire)
  let waiter : Channel.Waiter :=
    ⟨0, call, purpose, state.channel.now, state.channel.attempts.length⟩
  have written (outcome : Channel.Outcome) :=
    state.channel.modify_start config.channel (config.transport wire) outcome
  have shown := state.channel.look_nextAttempt config.channel (config.transport wire)
  have stepped := step_channel config wire (calm.isBusy 0) call
  rw [Channel.State.call_of_idle config.channel (config.transport wire) (calm.waiter? 0) needed
    idle] at stepped
  by_cases due : attempt.dueAt config.channel.limit ≤ state.channel.now
  -- the first look shows the end already
  · have joined : begun.join config.channel waiter = _ := Channel.State.join_start_of_due rfl due
    rw [joined] at stepped
    let outcome := attempt.outcomeAt config.channel state.channel.now
    refine ⟨state.onto (begun.settle waiter.attempt outcome), outcome,
      ⟨⟨calm.tasks, ?_⟩, ⟨state.channel.now, rfl⟩, rfl, ?_, ?_⟩, perform_of_answered stepped⟩
    · exact (Channel.State.settle_waiting _ _ _).trans calm.waiting
    · exact Channel.State.settle_slot rfl _
    · exact (Channel.State.settle_attempts _ _ _).trans (written _)
  -- the caller waits, and looks again when the attempt is due
  · let joined : Channel.State := { begun with waiting := state.channel.waiting ++ [waiter] }
    have waits : begun.join config.channel waiter = (joined, none) :=
      Channel.State.join_start_of_early rfl due
    have seat : joined.waiter? 0 = some waiter := by
      simp [joined, Channel.State.waiter?, calm.waiting, waiter]
    have found : joined.attempts[waiter.attempt]? = some attempt :=
      state.channel.getElem?_start config.channel (config.transport wire)
    have early : joined.now ≤ attempt.dueAt config.channel.limit :=
      Nat.le_of_lt (Nat.lt_of_not_le due)
    rw [waits] at stepped
    let due : Channel.State := { joined with now := attempt.dueAt config.channel.limit }
    let outcome := attempt.outcomeAt config.channel (attempt.dueAt config.channel.limit)
    refine ⟨state.onto ((due.settle waiter.attempt outcome).dismiss waiter.caller), outcome,
      ⟨⟨calm.tasks, ?_⟩, ⟨attempt.dueAt config.channel.limit, rfl⟩, rfl, ?_, ?_⟩,
      perform_of_waiting (calm.task? 0) stepped seat found early
        ((shown _).trans (if_pos (Nat.le_refl _)))⟩
    · refine List.filter_eq_nil_iff.mpr fun other member => ?_
      rw [Channel.State.settle_waiting] at member
      have only : other ∈ state.channel.waiting ++ [waiter] := member
      rw [calm.waiting, List.nil_append, List.mem_singleton] at only
      simp [only, waiter]
    · exact Channel.State.settle_slot rfl _
    · exact (Channel.State.settle_attempts _ _ _).trans (written _)

namespace Exchanged

variable {before after : State} {outcome : Channel.Outcome}

/-- Only the request of the key exchange is sent, and not even that if it cannot be. -/
theorem dispatched (exchanged : Exchanged config wire before outcome after) :
    State.dispatched config before after =
      if config.post.isSendable then [.exchange config.post] else [] := by
  rw [State.dispatched, exchanged.attempts, exchanged.sent, List.drop_left, List.drop_length]
  by_cases sendable : config.post.isSendable = true
  · rw [if_pos sendable]
    exact congrArg (·.map Dispatch.exchange ++ []) (List.filter_cons_of_pos sendable)
  · rw [if_neg sendable]
    exact congrArg (·.map Dispatch.exchange ++ []) (List.filter_cons_of_neg sendable)

/-- A key exchange that led to a key was sent. -/
theorem isSendable_of_ok {material : Envelope.Material}
    (exchanged : Exchanged config wire before (.ok material) after) :
    config.post.isSendable = true := by
  obtain ⟨instant, ends⟩ := exchanged.ends
  by_contra unsendable
  have refused : (before.channel.nextAttempt config.channel (config.transport wire)).exchange =
      ⟨some 0, .error (.transport (Http.Fault.unsendable config.post.shown).message)⟩ :=
    if_neg unsendable
  rw [Channel.Attempt.outcomeAt, refused] at ends
  split at ends
  · cases ends
  · cases ends

end Exchanged

end SealedCredentials.Client.State
