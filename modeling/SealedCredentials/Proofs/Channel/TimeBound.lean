import SealedCredentials.Proofs.Channel.Attendance
import SealedCredentials.Proofs.Channel.SingleFlight

/-!
# No caller waits longer than the limit

In a timely run a caller that waits has an attempt that began no later than the call and is not
overdue (`State.Prompt`).  A call keeps this because its first look ends an attempt that is due,
and time keeps it because whoever waits looks again in time.  Since an attempt is due after the
limit at the latest, nobody waits longer than the limit, whoever began the attempt and whoever has
left it in the meantime.

Together with the instant at which an attempt ends this is `State.time_bound`.  The runs that tasks
in virtual time make are timely.
-/

set_option autoImplicit false

namespace SealedCredentials.Channel

open SealedCredentials.Agreement

variable {config : Config} {transport : Transport}

theorem Attempt.dueAt_le (attempt : Attempt) (limit : Nat) :
    attempt.dueAt limit ≤ attempt.startedAt + limit := by
  unfold dueAt
  cases attempt.exchange.delay with
  | none => exact Nat.le_refl _
  | some span => exact Nat.add_le_add_left (Nat.min_le_right span limit) _

namespace State

variable {state : State}

/-! ## Prompt states -/

/-- Whoever waits has called no earlier than its attempt began, and the attempt is not overdue. -/
def Prompt (config : Config) (state : State) : Prop :=
  ∀ waiter ∈ state.waiting, ∀ attempt : Attempt,
    state.attempts[waiter.attempt]? = some attempt →
      attempt.startedAt ≤ waiter.begun ∧ state.now ≤ attempt.dueAt config.limit

theorem prompt_fresh (now : Nat) : (fresh now).Prompt config := by
  intro waiter member
  cases member

/-- A look that shows no end comes before the due instant. -/
theorem lt_dueAt_of_blind {place : Nat} (blind : state.look config place = (state, none))
    {attempt : Attempt} (found : state.attempts[place]? = some attempt) :
    state.now < attempt.dueAt config.limit := by
  refine Nat.lt_of_not_le fun due => ?_
  obtain ⟨outcome, seen⟩ := Option.isSome_iff_exists.mp (Attempt.look_of_due due)
  have shown := congrArg Prod.snd blind
  rw [look_of_seen found seen] at shown
  cases shown

/-- Whoever begins to wait with a call begins now, and its attempt is not due. -/
theorem mem_waiting_call_cases {caller : Nat} {call : Call} {member : Waiter}
    (waits : member ∈ (state.call config transport caller call).1.waiting) :
    member ∈ state.waiting ∨ member.begun = state.now ∧ ∀ attempt : Attempt,
      (state.call config transport caller call).1.attempts[member.attempt]? = some attempt →
        state.now < attempt.dueAt config.limit := by
  rcases state.call_same_or_join config transport caller call with same |
    ⟨purpose, number, seated, -, -, origin, same⟩
  · rw [same] at waits
    exact .inl waits
  · obtain ⟨clock, callers⟩ := seated_kept origin
    rw [same, join] at waits ⊢
    rcases seated.look_cases config number with blind | ⟨attempt, outcome, -, -, seen⟩
    · rw [blind] at waits ⊢
      rcases List.mem_append.mp waits with before | last
      · exact .inl (callers ▸ before)
      · rw [List.mem_singleton.mp last]
        refine .inr ⟨rfl, fun attempt found => ?_⟩
        rw [← clock]
        exact lt_dueAt_of_blind blind found
    · rw [seen] at waits
      rw [settle_waiting, callers] at waits
      exact .inl waits

/-- Time passes with time only. -/
theorem now_step {event : Event} (still : ∀ span, event ≠ .elapse span) :
    (state.step config transport event).1.now = state.now := by
  cases event with
  | call caller call =>
    change (state.call config transport caller call).1.now = state.now
    rcases state.call_same_or_join config transport caller call with same |
      ⟨purpose, number, seated, -, -, origin, same⟩
    · rw [same]
    · have clock := (seated_kept origin).1
      rw [same]
      rcases seated.join_cases config ⟨caller, call, purpose, state.now, number⟩ with
        waits | ⟨attempt, outcome, -, -, seen⟩
      · rw [waits]
        exact clock
      · rw [seen]
        exact (settle_now seated number outcome).trans clock
  | resume caller =>
    cases place : state.waiter? caller with
    | none => simp only [step, place]
    | some waiter =>
      simp only [step, place]
      rcases state.resume_cases config waiter with same | ⟨attempt, outcome, -, -, same⟩
      · rw [same]
      · rw [same]
        exact settle_now state waiter.attempt outcome
  | abandon caller => rfl
  | elapse span => exact absurd rfl (still span)

/-- Whoever waited before an event that takes no time is as prompt after it. -/
theorem prompt_of_before (invariant : Invariant config transport state)
    (prompt : state.Prompt config) {event : Event} {waiter : Waiter}
    (before : waiter ∈ state.waiting) {attempt : Attempt}
    (found : (state.step config transport event).1.attempts[waiter.attempt]? = some attempt) :
    attempt.startedAt ≤ waiter.begun ∧ state.now ≤ attempt.dueAt config.limit := by
  have there := List.getElem?_eq_getElem (invariant.begun waiter before)
  have same := (state.step_moves event).begun_eq there found
  have former := prompt waiter before _ there
  rw [← Attempt.dueAt_of_begun same] at former
  rw [← Attempt.startedAt_of_begun same] at former
  exact former

/-- **A timely event keeps a state prompt.** -/
theorem prompt_step (invariant : Invariant config transport state)
    (prompt : state.Prompt config) {event : Event}
    (paced : ∀ span, event = .elapse span → state.waits config span = true) :
    (state.step config transport event).1.Prompt config := by
  intro waiter member attempt found
  cases event with
  | call caller call =>
    rw [now_step (by simp)]
    rcases mem_waiting_call_cases member with before | ⟨begun, early⟩
    · exact prompt_of_before invariant prompt before found
    · have genuine := (invariant.step (.call caller call)).genuine _ attempt found
      have started := genuine.startedAt_le
      rw [now_step (by simp)] at started
      exact ⟨by rw [begun]; exact started, Nat.le_of_lt (early attempt found)⟩
  | resume caller =>
    rw [now_step (by simp)]
    rcases mem_waiting_step member with before | ⟨impossible, -⟩
    · exact prompt_of_before invariant prompt before found
    · cases impossible
  | abandon caller =>
    exact prompt_of_before invariant prompt (List.mem_filter.mp member).1 found
  | elapse span =>
    obtain ⟨started, due⟩ := prompt waiter member attempt found
    refine ⟨started, ?_⟩
    rcases Nat.eq_zero_or_pos span with none | positive
    · rw [none]
      exact due
    · exact le_dueAt_of_waits positive (paced span rfl) member found

theorem run_prompt (invariant : Invariant config transport state) (prompt : state.Prompt config)
    {events : List Event} (timely : timely config transport state events = true) :
    (state.run config transport events).1.Prompt config := by
  induction events generalizing state with
  | nil => exact prompt
  | cons event later ih =>
    obtain ⟨paced, timelyLater⟩ := timely_cons.mp timely
    rw [run_cons]
    exact ih (invariant.step event) (prompt_step invariant prompt paced) timelyLater

/-! ## How long a call takes -/

/-- Whoever waits has an attempt within the limit of its beginning. -/
theorem Prompt.within (prompt : state.Prompt config) (invariant : Invariant config transport state)
    {waiter : Waiter} (member : waiter ∈ state.waiting) :
    ∃ attempt, state.attempts[waiter.attempt]? = some attempt ∧
      state.now ≤ attempt.startedAt + config.limit ∧ attempt.startedAt ≤ waiter.begun := by
  have there := List.getElem?_eq_getElem (invariant.begun waiter member)
  obtain ⟨started, due⟩ := prompt waiter member _ there
  exact ⟨_, there, Nat.le_trans due (Attempt.dueAt_le _ _), started⟩

/-- An answer comes within the limit of its call. -/
theorem ended_le_of_step (invariant : Invariant config transport state)
    (prompt : state.Prompt config) {event : Event} {answer : Answer}
    (given : (state.step config transport event).2 = some answer) :
    answer.ended ≤ answer.begun + config.limit := by
  cases event with
  | call caller call =>
    simp only [step, Option.map_eq_some_iff] at given
    obtain ⟨result, -, rfl⟩ := given
    exact Nat.le_add_right _ _
  | resume caller =>
    cases place : state.waiter? caller with
    | none =>
      simp only [step, place] at given
      cases given
    | some waiter =>
      simp only [step, place, Option.map_eq_some_iff] at given
      obtain ⟨result, -, rfl⟩ := given
      obtain ⟨attempt, -, within, started⟩ := prompt.within invariant (mem_of_waiter? place)
      change state.now ≤ waiter.begun + config.limit
      omega
  | abandon caller => cases given
  | elapse span => cases given

/-- All answers of a timely run come within the limit of their calls. -/
theorem ended_le_of_run (invariant : Invariant config transport state)
    (prompt : state.Prompt config) {events : List Event}
    (timely : timely config transport state events = true) :
    ∀ answer ∈ (state.run config transport events).2,
      answer.ended ≤ answer.begun + config.limit := by
  induction events generalizing state with
  | nil =>
    intro answer member
    cases member
  | cons event later ih =>
    intro answer member
    obtain ⟨paced, timelyLater⟩ := timely_cons.mp timely
    rw [run_cons] at member
    rcases List.mem_append.mp member with now | after
    · exact ended_le_of_step invariant prompt (Option.mem_toList.mp now)
    · exact ih (invariant.step event) (prompt_step invariant prompt paced) timelyLater answer after

/-- A call is answered at once, or its caller is bound to an attempt. -/
theorem step_call_answered_or_joined (config : Config) (transport : Transport) {caller : Nat}
    (free : state.waiter? caller = none) (call : Call) :
    (∃ result, (state.step config transport (.call caller call)).2 =
        some ⟨caller, call, state.now, state.now, result⟩) ∨
      ∃ purpose number, call.purpose = .ok purpose ∧ state.joined? = some number := by
  cases needed : call.purpose with
  | error fault =>
    left
    simp only [step, State.call, free, needed, Option.isSome_none, Bool.false_eq_true, if_false]
    exact ⟨_, rfl⟩
  | ok purpose =>
    cases held : state.slot with
    | established material =>
      left
      rw [step_call_established held free needed]
      exact ⟨_, rfl⟩
    | idle => exact .inr ⟨purpose, _, rfl, by rw [joined?, held]⟩
    | pending number => exact .inr ⟨purpose, number, rfl, by rw [joined?, held]⟩

/-- **A caller that does not leave has an answer once the limit has passed.** -/
theorem exists_answer_of_limit (invariant : Invariant config transport state)
    (prompt : state.Prompt config) {caller : Nat} {call : Call} {later : List Event}
    (timely : timely config transport state (.call caller call :: later) = true)
    (free : state.waiter? caller = none) (loyal : .abandon caller ∉ later)
    (passed : state.now + config.limit <
      (state.run config transport (.call caller call :: later)).1.now) :
    ∃ answer ∈ (state.run config transport (.call caller call :: later)).2,
      answer.caller = caller ∧ answer.call = call ∧ answer.begun = state.now := by
  rcases step_call_answered_or_joined config transport free call with ⟨result, given⟩ |
    ⟨purpose, number, needed, joined⟩
  · refine ⟨⟨caller, call, state.now, state.now, result⟩, ?_, rfl, rfl, rfl⟩
    rw [run_cons, given]
    exact List.mem_cons_self
  · have joins : (Waiter.mk caller call purpose state.now number).Bound
        (state.run config transport (.call caller call :: later)).1
        (state.run config transport (.call caller call :: later)).2 :=
      (step_call_bound free needed joined).run loyal
    cases joins with
    | served attempt outcome ended found known first =>
      exact ⟨_, List.mem_of_find?_eq_some first, rfl, rfl, rfl⟩
    | waiting waits unanswered =>
      have promptLater := run_prompt invariant prompt timely
      have invariantLater := invariant.moves (run_moves state (.call caller call :: later))
      obtain ⟨attempt, -, within, started⟩ :=
        promptLater.within invariantLater (mem_of_waiter? waits)
      change attempt.startedAt ≤ state.now at started
      omega

/-! ## The main result -/

/-- An attempt whose end is unknown holds the slot, and a call for key material joins it without
another request. -/
theorem joins_unfinished (config : Config) (transport : Transport) {faults : List HandshakeFault}
    (ledger : Ledger state faults) {number : Nat} {attempt : Attempt}
    (found : state.attempts[number]? = some attempt) (unfinished : attempt.outcome = none)
    {caller : Nat} {call : Call} {purpose : Purpose} (free : state.waiter? caller = none)
    (needed : call.purpose = .ok purpose) :
    let joined := state.step config transport (.call caller call)
    joined.1.attempts.length = state.attempts.length ∧
      (Waiter.mk caller call purpose state.now number).Bound joined.1 joined.2.toList := by
  have held := ledger.slot_of_unfinished found unfinished
  refine ⟨?_, step_call_bound free needed (by rw [joined?, held])⟩
  change (state.call config transport caller call).1.attempts.length = state.attempts.length
  rw [call_of_pending config transport free needed held, length_join]

/-- **The limit bounds every call.**  In every timely run, however callers come, wait and leave:

* an attempt ends at the first instant, no earlier than its due one, at which somebody attends to
  it: with what its answer leads to if the answer is there at this instant, and with the limit if
  not; without such an instant its end is unknown;
* an attempt whose end is unknown holds the slot, even if all its callers have left, and the next
  caller joins it without another request;
* nobody waits for an attempt after the limit from its beginning, which was no later than the call;
* every answer comes within the limit of its call;
* a caller that does not leave has an answer once the limit has passed since its call. -/
theorem time_bound (config : Config) (transport : Transport) (start : Nat) (events : List Event)
    (timely : timely config transport (fresh start) events = true) :
    let final := ((fresh start).run config transport events).1
    let answers := ((fresh start).run config transport events).2
    (∀ (number : Nat) (attempt : Attempt), final.attempts[number]? = some attempt →
        attempt.outcome =
          (firstAttended config transport number (attempt.dueAt config.limit) (fresh start)
            events).map (attempt.outcomeAt config)) ∧
      (∀ (number : Nat) (attempt : Attempt), final.attempts[number]? = some attempt →
        attempt.outcome = none →
        final.slot = .pending number ∧
          ∀ (caller : Nat) (call : Call) (purpose : Purpose), final.waiter? caller = none →
            call.purpose = .ok purpose →
            let joined := final.step config transport (.call caller call)
            joined.1.attempts.length = final.attempts.length ∧
              (Waiter.mk caller call purpose final.now number).Bound joined.1
                joined.2.toList) ∧
      (∀ waiter ∈ final.waiting, ∃ attempt, final.attempts[waiter.attempt]? = some attempt ∧
        final.now ≤ attempt.startedAt + config.limit ∧ attempt.startedAt ≤ waiter.begun) ∧
      (∀ answer ∈ answers, answer.ended ≤ answer.begun + config.limit) ∧
      ∀ (earlier later : List Event) (caller : Nat) (call : Call),
        events = earlier ++ .call caller call :: later →
        let state := ((fresh start).run config transport earlier).1
        state.waiter? caller = none → .abandon caller ∉ later →
        state.now + config.limit < final.now →
        ∃ answer ∈ answers,
          answer.caller = caller ∧ answer.call = call ∧ answer.begun = state.now := by
  intro final answers
  have invariant : Invariant config transport final := .run start events
  have prompt : final.Prompt config := run_prompt (.fresh start) (prompt_fresh start) timely
  obtain ⟨faults, ledger⟩ := invariant.ledger
  refine ⟨?_, ?_, ?_, ended_le_of_run (.fresh start) (prompt_fresh start) timely, ?_⟩
  · intro number attempt found
    exact run_outcome (.fresh start) timely rfl found
  · intro number attempt found unfinished
    refine ⟨ledger.slot_of_unfinished found unfinished, ?_⟩
    intro caller call purpose free needed
    exact joins_unfinished config transport ledger found unfinished free needed
  · intro waiter member
    exact prompt.within invariant member
  · rintro earlier later caller call rfl state free loyal passed
    obtain ⟨timelyEarlier, timelyLater⟩ := timely_append.mp timely
    have ended : final = (state.run config transport (.call caller call :: later)).1 := by
      change (run config transport (fresh start) (earlier ++ _)).1 = _
      rw [run_append]
    have given : answers = ((fresh start).run config transport earlier).2 ++
        (state.run config transport (.call caller call :: later)).2 := by
      change (run config transport (fresh start) (earlier ++ _)).2 = _
      rw [run_append]
    rw [ended] at passed
    obtain ⟨answer, member, mine⟩ := exists_answer_of_limit (.run start earlier)
      (run_prompt (.fresh start) (prompt_fresh start) timelyEarlier) timelyLater free loyal passed
    refine ⟨answer, ?_, mine⟩
    rw [given]
    exact List.mem_append_right _ member

/-- The first attempt is left by its caller and ends, long after its limit, for the next caller;
the second is left too, but its answer is there when the next caller comes; the third has its
answer at the very instant at which the limit passes. -/
theorem time_bound_of_three :
    let config : Config := ⟨KeyPair.withExponent Group.legacy.parameters 5, 10⟩
    let transport : Transport := fun number _ =>
      match number with
      | 0 => ⟨none, .error (.transport "lost")⟩
      | 1 => ⟨some 15, .ok (.rejected "late")⟩
      | _ => ⟨some 10, .error (.transport "tie")⟩
    let events : List Event := [.call 0 .ensure, .elapse 4, .abandon 0, .elapse 20,
      .call 1 .ensure, .call 1 .ensure, .elapse 3, .abandon 1, .elapse 17, .call 2 .ensure,
      .call 2 .ensure, .elapse 10, .resume 2, .elapse 1]
    let final := ((fresh 0).run config transport events).1
    timely config transport (fresh 0) events = true ∧
      final.attempts.map Attempt.startedAt = [0, 24, 44] ∧
      (∀ (number : Nat) (attempt : Attempt), final.attempts[number]? = some attempt →
        attempt.outcome =
          (firstAttended config transport number (attempt.dueAt 10) (fresh 0) events).map
            (attempt.outcomeAt config)) ∧
      final.attempts.map Attempt.outcome =
        [some (.error (.timedOut 10)), some (.error (.rejected "late")),
          some (.error (.transport "tie"))] ∧
      (∀ answer ∈ ((fresh 0).run config transport events).2,
        answer.ended ≤ answer.begun + 10) ∧
      ∃ answer ∈ ((fresh 0).run config transport events).2,
        answer.caller = 2 ∧ answer.call = .ensure ∧ answer.begun = 44 := by
  intro config transport events final
  have timely : timely config transport (fresh 0) events = true := by decide +kernel
  obtain ⟨outcomes, -, -, within, served⟩ := time_bound config transport 0 events timely
  have answered := served (events.take 10) [.elapse 10, .resume 2, .elapse 1] 2 .ensure rfl rfl
    (by simp) (by decide +kernel)
  have begun : final.attempts.map Attempt.startedAt = [0, 24, 44] := by decide +kernel
  exact ⟨timely, begun, outcomes, rfl, within, answered⟩

end State

end SealedCredentials.Channel
