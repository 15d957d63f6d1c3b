import SealedCredentials.Proofs.Channel.Accompanied
import SealedCredentials.Proofs.Channel.TimeBound

/-!
# Attempts that have expired

An attempt whose limit has passed without an answer has failed, and after a failure the next call
starts over: that is the rule (`State.StartsOver`).  A channel keeps it as long as nobody leaves.
Whoever waits sees the limit pass and clears the slot, so a call after the limit finds it idle
(`State.Accompanied.idle_of_expired`).

It does not keep it for an attempt that all its callers have left.  Nobody sees the limit of such
an attempt pass, and the slot still holds it when the next call comes.  This call joins it and gets
the end of an attempt that had expired before the call began (`State.step_call_expired`); only the
call after that starts over.  `State.expiry` says both, and `State.not_startsOver` is a run that
breaks the rule.
-/

set_option autoImplicit false

namespace SealedCredentials.Channel

open SealedCredentials.Agreement

variable {config : Config} {transport : Transport}

/-- A look after the limit that finds no answer shows that the limit has passed. -/
theorem Attempt.look_of_expired {attempt : Attempt} {now : Nat}
    (unfinished : attempt.outcome = none) (unanswered : attempt.answered now = false)
    (expired : attempt.startedAt + config.limit ≤ now) :
    attempt.look config now = some (.error (.timedOut config.limit)) := by
  have due : attempt.dueAt config.limit ≤ now := dueAt_le_iff.mpr (.inr expired)
  rw [look_of_unfinished unfinished, if_pos due, outcomeAt, unanswered]
  rfl

namespace State

variable {state : State}

/-! ## A slot that holds an expired attempt -/

/-- **Who calls while the slot holds an expired attempt gets the end of that attempt**, and clears
the slot. -/
theorem step_call_expired (transport : Transport) {number : Nat} {attempt : Attempt}
    (held : state.slot = .pending number) (found : state.attempts[number]? = some attempt)
    (unfinished : attempt.outcome = none) (unanswered : attempt.answered state.now = false)
    (expired : attempt.startedAt + config.limit ≤ state.now) {caller : Nat} {call : Call}
    {purpose : Purpose} (free : state.waiter? caller = none) (needed : call.purpose = .ok purpose) :
    state.step config transport (.call caller call) =
      (state.settle number (.error (.timedOut config.limit)),
        some ⟨caller, call, state.now, state.now,
          .error (.handshake (.timedOut config.limit))⟩) := by
  have seen := Attempt.look_of_expired unfinished unanswered expired
  simp only [step, call_of_pending config transport free needed held, join,
    look_of_seen found seen, Option.map_some]
  rfl

/-- A call for key material on an idle channel makes a request, and its caller is bound to the
attempt that it begins. -/
theorem step_call_begins (config : Config) (transport : Transport) (idle : state.slot = .idle)
    {caller : Nat} {call : Call} {purpose : Purpose} (free : state.waiter? caller = none)
    (needed : call.purpose = .ok purpose) :
    let next := state.step config transport (.call caller call)
    next.1.attempts.length = state.attempts.length + 1 ∧
      (Waiter.mk caller call purpose state.now state.attempts.length).Bound next.1
        next.2.toList := by
  refine ⟨?_, step_call_bound free needed (by rw [joined?, idle])⟩
  change (state.call config transport caller call).1.attempts.length = _
  rw [call_of_idle config transport free needed idle, length_join, start, List.length_append,
    List.length_singleton]

/-! ## Who lets an attempt expire -/

/-- Nobody waits for an attempt whose limit has passed. -/
theorem Prompt.attempt_ne_of_expired (prompt : state.Prompt config) {number : Nat}
    {attempt : Attempt} (found : state.attempts[number]? = some attempt)
    (expired : attempt.startedAt + config.limit < state.now) :
    ∀ waiter ∈ state.waiting, waiter.attempt ≠ number := by
  rintro waiter member rfl
  obtain ⟨-, due⟩ := prompt waiter member attempt found
  have bound := attempt.dueAt_le config.limit
  omega

/-- An attempt that has a caller leaves the slot by its limit. -/
theorem Accompanied.le_of_pending (accompanied : state.Accompanied) (prompt : state.Prompt config)
    {number : Nat} {attempt : Attempt} (held : state.slot = .pending number)
    (found : state.attempts[number]? = some attempt) :
    state.now ≤ attempt.startedAt + config.limit := by
  obtain ⟨caller, waiter, waits, its⟩ := accompanied number held
  refine Nat.le_of_not_lt fun expired => ?_
  exact prompt.attempt_ne_of_expired found expired waiter (mem_of_waiter? waits) its

/-- Once the limits of all attempts have passed and there is no key, an accompanied slot is
idle. -/
theorem Accompanied.idle_of_expired (accompanied : state.Accompanied)
    (prompt : state.Prompt config) (invariant : Invariant config transport state)
    (expired : ∀ attempt ∈ state.attempts, attempt.startedAt + config.limit < state.now)
    (keyless : state.isEstablished = false) : state.slot = .idle := by
  cases held : state.slot with
  | idle => rfl
  | pending number =>
    obtain ⟨faults, ledger⟩ := invariant.ledger
    obtain ⟨attempt, found, -⟩ := ledger.unfinished_of_slot held
    have within := accompanied.le_of_pending prompt held found
    have passed := expired attempt (List.mem_of_getElem? found)
    omega
  | established material =>
    rw [isEstablished, held] at keyless
    cases keyless

/-! ## The main results -/

/-- The rule for expired attempts: who calls after the limit of the attempt in the slot, while
there is no answer to it, begins a new one. -/
def StartsOver (config : Config) (transport : Transport) (state : State) : Prop :=
  ∀ (number : Nat) (attempt : Attempt), state.slot = .pending number →
    state.attempts[number]? = some attempt → attempt.answered state.now = false →
    attempt.startedAt + config.limit < state.now →
    ∀ (caller : Nat) (call : Call) (purpose : Purpose), state.waiter? caller = none →
      call.purpose = .ok purpose →
      (state.step config transport (.call caller call)).1.attempts.length =
        state.attempts.length + 1

/-- **The rule does not hold for attempts that were left.**  A caller leaves the only attempt,
which gets no answer; when the next one calls, the limit has long passed, and yet no attempt is
begun. -/
theorem not_startsOver :
    ¬ ∀ (config : Config) (transport : Transport) (start : Nat) (events : List Event),
      timely config transport (fresh start) events = true →
        StartsOver config transport ((fresh start).run config transport events).1 := by
  intro rule
  let config : Config := ⟨KeyPair.withExponent Group.legacy.parameters 5, 10⟩
  let transport : Transport := fun _ _ => ⟨none, .error (.transport "lost")⟩
  have begins := rule config transport 0 [.call 0 .ensure, .elapse 5, .abandon 0, .elapse 20]
    (by decide +kernel) 0 ⟨config.request, 0, ⟨none, .error (.transport "lost")⟩, none⟩ rfl rfl rfl
    (by decide +kernel) 1 .ensure .presence rfl rfl
  exact absurd begins (by decide +kernel)

/-- **Expired attempts.**  In every reachable state:

* a call for key material, while the slot holds an attempt without an answer whose limit has
  passed, gets this attempt's end at once and makes no request; it clears the slot, so the next
  call makes one and is bound to the attempt that it begins;
* if the run was timely, nobody waits for an attempt in the slot whose limit has passed, and
  somebody has left;
* if the run was timely and nobody has left, then after the limits of all attempts, while there is
  no key, a call makes a request and is bound to the attempt that it begins. -/
theorem expiry (config : Config) (transport : Transport) (start : Nat) (events : List Event) :
    let state := ((fresh start).run config transport events).1
    (∀ (number : Nat) (attempt : Attempt), state.slot = .pending number →
        state.attempts[number]? = some attempt → attempt.answered state.now = false →
        attempt.startedAt + config.limit ≤ state.now →
        ∀ (caller : Nat) (call : Call) (purpose : Purpose), state.waiter? caller = none →
          call.purpose = .ok purpose →
          let late := state.step config transport (.call caller call)
          late.2 = some ⟨caller, call, state.now, state.now,
              .error (.handshake (.timedOut config.limit))⟩ ∧
            late.1.attempts.length = state.attempts.length ∧ late.1.slot = .idle ∧
            ∀ (other : Nat) (retry : Call) (aim : Purpose), late.1.waiter? other = none →
              retry.purpose = .ok aim →
              let next := late.1.step config transport (.call other retry)
              next.1.attempts.length = state.attempts.length + 1 ∧
                (Waiter.mk other retry aim state.now state.attempts.length).Bound next.1
                  next.2.toList) ∧
      (timely config transport (fresh start) events = true →
        ∀ (number : Nat) (attempt : Attempt), state.slot = .pending number →
          state.attempts[number]? = some attempt →
          attempt.startedAt + config.limit < state.now →
          (∀ waiter ∈ state.waiting, waiter.attempt ≠ number) ∧
            ∃ caller, .abandon caller ∈ events) ∧
      (timely config transport (fresh start) events = true →
        (∀ caller, .abandon caller ∉ events) →
        (∀ attempt ∈ state.attempts, attempt.startedAt + config.limit < state.now) →
        state.isEstablished = false →
        ∀ (caller : Nat) (call : Call) (purpose : Purpose), state.waiter? caller = none →
          call.purpose = .ok purpose →
          let next := state.step config transport (.call caller call)
          next.1.attempts.length = state.attempts.length + 1 ∧
            (Waiter.mk caller call purpose state.now state.attempts.length).Bound next.1
              next.2.toList) := by
  intro state
  have invariant : Invariant config transport state := .run start events
  obtain ⟨faults, ledger⟩ := invariant.ledger
  refine ⟨?_, ?_, ?_⟩
  · intro number attempt held found unanswered expired caller call purpose free needed late
    obtain ⟨same, there, unfinished⟩ := ledger.unfinished_of_slot held
    rw [found] at there
    cases there
    have stepped : late = _ :=
      step_call_expired transport held found unfinished unanswered expired free needed
    have idle : late.1.slot = .idle := by
      rw [stepped]
      exact settle_slot_error held _
    have kept : late.1.attempts.length = state.attempts.length := by
      rw [stepped]
      exact length_settle state number _
    have clock : late.1.now = state.now := by
      rw [stepped]
      exact settle_now state number _
    refine ⟨by rw [stepped], kept, idle, ?_⟩
    intro other retry aim freeNow neededNow
    rw [← kept, ← clock]
    exact step_call_begins config transport idle freeNow neededNow
  · intro timely number attempt held found expired
    have prompt : state.Prompt config := run_prompt (.fresh start) (prompt_fresh start) timely
    refine ⟨prompt.attempt_ne_of_expired found expired, ?_⟩
    by_contra nobody
    have accompanied : state.Accompanied :=
      run_accompanied (accompanied_fresh start) (not_exists.mp nobody)
    have within := accompanied.le_of_pending prompt held found
    omega
  · intro timely loyal expired keyless caller call purpose free needed
    have prompt : state.Prompt config := run_prompt (.fresh start) (prompt_fresh start) timely
    have accompanied : state.Accompanied := run_accompanied (accompanied_fresh start) loyal
    have idle := accompanied.idle_of_expired prompt invariant expired keyless
    exact step_call_begins config transport idle free needed

/-- One caller leaves the first attempt, so the next call fails with it and only the one after
that makes a request; another channel, whose caller sees the limit pass, makes one at once. -/
theorem expiry_left_or_seen :
    let config : Config := ⟨KeyPair.withExponent Group.legacy.parameters 5, 10⟩
    let transport : Transport := fun number _ =>
      match number with
      | 0 => ⟨none, .error (.transport "lost")⟩
      | _ => ⟨some 3, .ok (.rejected "closed")⟩
    let left := ((fresh 0).run config transport
      [.call 0 .ensure, .elapse 5, .abandon 0, .elapse 20]).1
    let late := left.step config transport (.call 1 .ensure)
    let seen := ((fresh 0).run config transport
      [.call 0 .ensure, .elapse 10, .resume 0, .elapse 1]).1
    late.2 = some ⟨1, .ensure, 25, 25, .error (.handshake (.timedOut 10))⟩ ∧
      late.1.attempts.length = 1 ∧ late.1.slot = .idle ∧
      (late.1.step config transport (.call 1 .ensure)).1.attempts.length = 2 ∧
      (∀ waiter ∈ left.waiting, waiter.attempt ≠ 0) ∧
      (seen.step config transport (.call 1 .ensure)).1.attempts.length = 2 := by
  intro config transport left late seen
  obtain ⟨joins, abandoned, -⟩ := expiry config transport 0
    [.call 0 .ensure, .elapse 5, .abandon 0, .elapse 20]
  obtain ⟨-, -, starts⟩ := expiry config transport 0
    [.call 0 .ensure, .elapse 10, .resume 0, .elapse 1]
  obtain ⟨given, same, idle, retry⟩ := joins 0
    ⟨config.request, 0, ⟨none, .error (.transport "lost")⟩, none⟩ rfl rfl rfl (by decide +kernel)
    1 .ensure .presence rfl rfl
  obtain ⟨unattended, -⟩ := abandoned (by decide +kernel) 0
    ⟨config.request, 0, ⟨none, .error (.transport "lost")⟩, none⟩ rfl rfl (by decide +kernel)
  have begins := starts (by decide +kernel) (by simp) (by decide +kernel) rfl 1 .ensure .presence
    rfl rfl
  exact ⟨given, same, idle, (retry 1 .ensure .presence rfl rfl).1, unattended, begins.1⟩

end State

end SealedCredentials.Channel
