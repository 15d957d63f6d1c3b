import SealedCredentials.Proofs.Channel.Attendance
import Mathlib.Algebra.Ring.Nat

/-!
# A caller alone

Nobody else uses a new channel.  A caller makes the first call, and if it has to wait it looks again
after any spans it likes (`Event.looks`).  If the answer is there within the limit, the caller gets
the end of the first attempt once it has waited long enough, it gets nothing else, and the slot is
what that end leaves behind (`State.run_alone`).

Whoever begins an attempt gets its end at once or waits, according to whether it is due
(`State.join_start_of_due`, `State.join_start_of_early`).
-/

set_option autoImplicit false

namespace SealedCredentials.Channel

variable {config : Config} {transport : Transport}

/-- Looks of a caller, one after each of some spans. -/
def Event.looks (caller : Nat) (spans : List Nat) : List Event :=
  spans.flatMap fun span => [.elapse span, .resume caller]

/-- What the end of an attempt leaves in the slot that held it. -/
def Slot.ofOutcome : Outcome → Slot
  | .ok material => .established material
  | .error _ => .idle

namespace State

variable {state : State}

theorem settle_slot {number : Nat} (current : state.slot = .pending number) (outcome : Outcome) :
    (state.settle number outcome).slot = .ofOutcome outcome := by
  cases outcome with
  | ok material => exact settle_slot_ok current material
  | error fault => exact settle_slot_error current fault

/-- There is a key if the end that left the slot was one. -/
theorem isEstablished_of_slot {outcome : Outcome} (left : state.slot = .ofOutcome outcome) :
    state.isEstablished = outcome.isOk := by
  rw [isEstablished, left]
  cases outcome with
  | ok material => rfl
  | error fault => rfl

/-! ## The attempt that a call begins -/

/-- The attempt that a call begins now if the slot is idle. -/
def nextAttempt (state : State) (config : Config) (transport : Transport) : Attempt :=
  ⟨config.request, state.now, transport state.attempts.length config.request, none⟩

/-- The attempt that was just begun is the last one. -/
theorem getElem?_start (state : State) (config : Config) (transport : Transport) :
    (state.start config transport).attempts[state.attempts.length]? =
      some (state.nextAttempt config transport) := List.getElem?_concat_length

/-- The end of the attempt that was just begun is written down with it. -/
theorem modify_start (state : State) (config : Config) (transport : Transport)
    (outcome : Outcome) :
    ((state.start config transport).attempts.modify state.attempts.length fun attempt =>
        { attempt with outcome := some outcome }) =
      state.attempts ++ [{ state.nextAttempt config transport with outcome := some outcome }] := by
  rw [List.modify_eq_take_drop]
  simp [State.start, nextAttempt]

/-- An attempt shows its end from the due instant on. -/
theorem look_nextAttempt (state : State) (config : Config) (transport : Transport) (now : Nat) :
    let attempt := state.nextAttempt config transport
    attempt.look config now =
      if attempt.dueAt config.limit ≤ now then some (attempt.outcomeAt config now) else none :=
  Attempt.look_of_unfinished rfl config now

/-- Whoever begins an attempt that is due at once gets its end. -/
theorem join_start_of_due {waiter : Waiter} (number : waiter.attempt = state.attempts.length)
    (due : (state.nextAttempt config transport).dueAt config.limit ≤ state.now) :
    let outcome := (state.nextAttempt config transport).outcomeAt config state.now
    (state.start config transport).join config waiter =
      ((state.start config transport).settle waiter.attempt outcome,
        some (waiter.purpose.conclude outcome)) := by
  intro outcome
  have found := state.getElem?_start config transport
  have seen := (state.look_nextAttempt config transport state.now).trans (if_pos due)
  rw [← number] at found
  rw [join, look_of_seen found seen]

/-- Whoever begins an attempt that is not due yet waits for it. -/
theorem join_start_of_early {waiter : Waiter} (number : waiter.attempt = state.attempts.length)
    (early : ¬(state.nextAttempt config transport).dueAt config.limit ≤ state.now) :
    (state.start config transport).join config waiter =
      ({ state.start config transport with waiting := state.waiting ++ [waiter] }, none) := by
  have found := state.getElem?_start config transport
  have unseen : (state.nextAttempt config transport).look config
      (state.start config transport).now = none :=
    (state.look_nextAttempt config transport state.now).trans (if_neg early)
  have blind : (state.start config transport).look config waiter.attempt =
      (state.start config transport, none) := by
    rw [number]
    simp only [look, found, unseen]
  rw [join, blind]
  rfl

/-! ## Looks of the only caller -/

/-- Where nobody waits, looks bring nothing. -/
theorem run_looks_of_nobody (config : Config) (transport : Transport)
    (nobody : state.waiting = []) (caller : Nat) (spans : List Nat) :
    (state.run config transport (Event.looks caller spans)).1.slot = state.slot ∧
      (state.run config transport (Event.looks caller spans)).2 = [] := by
  induction spans generalizing state with
  | nil => exact ⟨rfl, rfl⟩
  | cons span later ih =>
    let passed : State := { state with now := state.now + span }
    have blank : passed.step config transport (.resume caller) = (passed, none) := by
      simp only [passed, step, waiter?, nobody, List.find?_nil]
    -- a run lets the span pass before the look
    change (passed.run config transport (.resume caller :: Event.looks caller later)).1.slot = _ ∧
      (passed.run config transport (.resume caller :: Event.looks caller later)).2 = _
    rw [run_cons, blank]
    exact ih nobody

/-- Once the only caller is answered, later looks bring nothing. -/
theorem run_looks_of_answered {event : Event} {next : State} {answer : Answer}
    (answered : state.step config transport event = (next, some answer))
    (nobody : next.waiting = []) (caller : Nat) (spans : List Nat) :
    let final := state.run config transport (event :: Event.looks caller spans)
    final.1.slot = next.slot ∧ final.2 = [answer] := by
  intro final
  obtain ⟨slot, silent⟩ :=
    run_looks_of_nobody config transport nobody caller spans
  have ran : final = _ := run_cons state event (Event.looks caller spans)
  rw [answered] at ran
  rw [ran]
  exact ⟨slot, by rw [silent]; rfl⟩

/-- A caller that waits for an attempt whose answer comes within the limit gets its end. -/
theorem run_looks {waiter : Waiter} (only : state.waiting = [waiter]) {attempt : Attempt}
    (found : state.attempts[waiter.attempt]? = some attempt) (unfinished : attempt.outcome = none)
    (current : state.slot = .pending waiter.attempt) {delay : Nat}
    (arrives : attempt.exchange.delay = some delay) (within : delay ≤ config.limit)
    {spans : List Nat} (early : state.now < attempt.startedAt + delay)
    (enough : attempt.startedAt + delay ≤ state.now + spans.sum) :
    let outcome := config.conclude attempt.exchange.answer
    let final := state.run config transport (Event.looks waiter.caller spans)
    final.1.slot = .ofOutcome outcome ∧
      final.2.map Answer.result = [waiter.purpose.conclude outcome] := by
  induction spans generalizing state with
  | nil =>
    rw [List.sum_nil] at enough
    omega
  | cons span later ih =>
    intro outcome final
    let passed : State := { state with now := state.now + span }
    have waits : passed.waiter? waiter.caller = some waiter := by
      simp [passed, waiter?, only]
    have there : passed.attempts[waiter.attempt]? = some attempt := found
    have dueAt : attempt.dueAt config.limit = attempt.startedAt + delay := by
      simp only [Attempt.dueAt, arrives, Nat.min_eq_left within]
    have shown := Attempt.look_of_unfinished unfinished config passed.now
    rw [dueAt] at shown
    -- this look brings the end, or the caller waits on and a later one does
    by_cases due : attempt.startedAt + delay ≤ passed.now
    · have ended : attempt.outcomeAt config passed.now = outcome := by
        simp only [Attempt.outcomeAt, Attempt.answered, arrives, due, decide_true, if_true, outcome]
      rw [if_pos due, ended] at shown
      have nobody :
          ((passed.settle waiter.attempt outcome).dismiss waiter.caller).waiting = [] := by
        simp [dismiss, settle_waiting, passed, only]
      have answered : passed.step config transport (.resume waiter.caller) = _ :=
        step_resume waits there shown
      obtain ⟨slot, said⟩ := run_looks_of_answered answered nobody waiter.caller later
      have pending : passed.slot = .pending waiter.attempt := current
      exact ⟨slot.trans (settle_slot pending outcome), congrArg (List.map Answer.result) said⟩
    · rw [if_neg due] at shown
      have blind : passed.look config waiter.attempt = (passed, none) := by
        simp only [look, there, shown]
      have unanswered : passed.step config transport (.resume waiter.caller) = (passed, none) :=
        step_resume_blind waits blind
      have ran : final = _ := run_cons passed (.resume waiter.caller)
        (Event.looks waiter.caller later)
      rw [unanswered] at ran
      rw [ran]
      have left : attempt.startedAt + delay ≤ passed.now + later.sum := by
        rw [List.sum_cons] at enough
        simp only [passed]
        omega
      exact ih only found current (Nat.lt_of_not_le due) left

/-- **The first call on a channel that nobody else uses** ends as the answer says, if the answer
comes within the limit and the caller looks again late enough, however often it does. -/
theorem run_alone (config : Config) (transport : Transport) (start caller : Nat) {call : Call}
    {purpose : Purpose} (needed : call.purpose = .ok purpose) {delay : Nat}
    {answer : Except HandshakeFault Message.Reply}
    (exchange : transport 0 config.request = ⟨some delay, answer⟩) (within : delay ≤ config.limit)
    {spans : List Nat} (enough : delay ≤ spans.sum) :
    let outcome := config.conclude answer
    let final := (fresh start).run config transport (.call caller call :: Event.looks caller spans)
    final.1.slot = .ofOutcome outcome ∧ final.2.map Answer.result = [purpose.conclude outcome] := by
  intro outcome final
  rcases Nat.eq_zero_or_pos delay with rfl | positive
  · have nobody : (((fresh start).start config transport).settle 0 outcome).waiting = [] :=
      settle_waiting _ 0 outcome
    obtain ⟨slot, said⟩ := run_looks_of_answered (step_call_prompt rfl rfl needed exchange) nobody
      caller spans
    have pending : ((fresh start).start config transport).slot = .pending 0 := rfl
    exact ⟨slot.trans (settle_slot pending outcome), congrArg (List.map Answer.result) said⟩
  · let attempt := (fresh start).nextAttempt config transport
    let waiter : Waiter := ⟨caller, call, purpose, start, 0⟩
    let joined : State := { (fresh start).start config transport with waiting := [waiter] }
    have brought : attempt.exchange = ⟨some delay, answer⟩ := exchange
    have dueAt : attempt.dueAt config.limit = start + delay := by
      rw [Attempt.dueAt, brought]
      exact congrArg (start + ·) (Nat.min_eq_left within)
    have early : ¬attempt.dueAt config.limit ≤ start := by
      rw [dueAt]
      omega
    have called : (fresh start).call config transport caller call = (joined, none) :=
      (call_of_idle config transport rfl needed rfl).trans (join_start_of_early rfl early)
    have begins : (fresh start).step config transport (.call caller call) = (joined, none) := by
      rw [step, called]
      rfl
    have ran : final = _ := run_cons (fresh start) (.call caller call) (Event.looks caller spans)
    rw [begins] at ran
    rw [ran]
    have only : joined.waiting = [waiter] := rfl
    have found : joined.attempts[waiter.attempt]? = some attempt := rfl
    have concluded : config.conclude attempt.exchange.answer = outcome := by rw [brought]
    rw [← concluded]
    exact run_looks only found rfl rfl (congrArg Exchange.delay brought) within
      (Nat.lt_add_of_pos_right positive) (Nat.add_le_add_left enough start)

end State

end SealedCredentials.Channel
