import SealedCredentials.Proofs.Channel.Answers

/-!
# Callers that share an attempt

A call for key material on a channel without a key begins an attempt or joins the one under way
(`State.joined?`).  From then on the caller is bound to that attempt.  As long as nobody looks on
its behalf it waits for this attempt and no other (`State.step_waiter?`); when it looks, it gets
the end of this attempt as soon as there is one (`State.step_resume`), whatever attempts have
been begun since.  And a look at an attempt that is no longer the one in the slot leaves the slot
alone (`State.step_resume_stale`), so a retry is safe from the other callers of the attempt
that failed.  The three together are `State.coalescing`.
-/

set_option autoImplicit false

namespace SealedCredentials.Channel

open SealedCredentials.Agreement

variable {config : Config} {transport : Transport}

/-! ## Looks that show an end -/

/-- A look no earlier than an attempt is due shows its end. -/
theorem Attempt.look_of_due {attempt : Attempt} {now : Nat}
    (due : attempt.dueAt config.limit ≤ now) : (attempt.look config now).isSome := by
  unfold Attempt.look Attempt.answered
  unfold Attempt.dueAt at due
  cases attempt.outcome with
  | some outcome => rfl
  | none =>
    cases delay : attempt.exchange.delay with
    | none =>
      simp only [delay] at due
      simp [due]
    | some span =>
      simp only [delay] at due
      by_cases answered : attempt.startedAt + span ≤ now
      · simp [answered]
      · have expired : attempt.startedAt + config.limit ≤ now := by omega
        simp [answered, expired]

namespace State

variable {state : State}

/-! ## Waiting -/

/-- Others that stop waiting leave a waiter in its place. -/
theorem waiter?_dismiss {caller other : Nat} (different : other ≠ caller) :
    (state.dismiss other).waiter? caller = state.waiter? caller := by
  unfold dismiss waiter?
  rw [List.find?_filter]
  refine congrArg (List.find? · state.waiting) (funext fun waiter => ?_)
  by_cases mine : waiter.caller = caller
  · simp [mine, Ne.symm different]
  · simp [mine]

/-- Others that begin to wait come after it. -/
theorem waiter?_of_append {caller : Nat} {waiter : Waiter} {next : State}
    (waits : state.waiter? caller = some waiter) {more : List Waiter}
    (appended : next.waiting = state.waiting ++ more) : next.waiter? caller = some waiter := by
  unfold waiter? at waits ⊢
  rw [appended, List.find?_append, waits, Option.some_or]

/-- Whoever begins to wait can be found. -/
theorem waiter?_append_self {waiter : Waiter} (free : state.waiter? waiter.caller = none) :
    { state with waiting := state.waiting ++ [waiter] }.waiter? waiter.caller = some waiter := by
  unfold waiter? at free ⊢
  rw [List.find?_append, free, Option.none_or]
  simp

/-- Joining takes nobody off the list. -/
theorem waiting_join (state : State) (config : Config) (waiter : Waiter) :
    ∃ more, (state.join config waiter).1.waiting = state.waiting ++ more := by
  rcases state.join_cases config waiter with same | ⟨attempt, outcome, -, -, same⟩
  · rw [same]
    exact ⟨[waiter], rfl⟩
  · rw [same]
    exact ⟨[], by rw [settle_waiting, List.append_nil]⟩

/-- A call takes nobody off the list. -/
theorem waiting_call (config : Config) (transport : Transport) (state : State) (caller : Nat)
    (call : Call) :
    ∃ more, (state.call config transport caller call).1.waiting = state.waiting ++ more := by
  rcases state.call_same_or_join config transport caller call with same |
    ⟨purpose, number, seated, -, -, origin, same⟩
  · rw [same]
    exact ⟨[], by rw [List.append_nil]⟩
  · rw [same]
    rcases origin with rfl | ⟨-, -, rfl⟩
    · exact waiting_join _ config _
    · exact (state.start config transport).waiting_join config _

/-- **Nobody else can take a waiter off its attempt**: it waits on, and answers go to others. -/
theorem step_waiter? {caller : Nat} {waiter : Waiter} (waits : state.waiter? caller = some waiter)
    {event : Event} (unseen : event ≠ .resume caller) (loyal : event ≠ .abandon caller) :
    (state.step config transport event).1.waiter? caller = some waiter ∧
      ∀ answer, (state.step config transport event).2 = some answer → answer.caller ≠ caller := by
  have silent : ∀ answer : Answer, none = some answer → answer.caller ≠ caller := by
    intro answer given
    cases given
  cases event with
  | call other call =>
    obtain ⟨more, appended⟩ := state.waiting_call config transport other call
    refine ⟨waiter?_of_append waits appended, ?_⟩
    intro answer given
    simp only [step, Option.map_eq_some_iff] at given
    obtain ⟨result, given, rfl⟩ := given
    rintro rfl
    rw [State.call, waits, Option.isSome_some, if_pos rfl] at given
    cases given
  | resume other =>
    have different : other ≠ caller := fun same => unseen (by rw [same])
    cases place : state.waiter? other with
    | none =>
      simp only [step, place]
      exact ⟨waits, silent⟩
    | some looking =>
      simp only [step, place]
      rcases state.resume_cases config looking with same | ⟨attempt, outcome, -, -, same⟩
      · rw [same]
        exact ⟨waits, silent⟩
      · rw [same]
        refine ⟨?_, ?_⟩
        · rw [caller_of_waiter? place, waiter?_dismiss different]
          exact waiter?_of_append waits (by rw [settle_waiting, List.append_nil])
        · intro answer given
          rw [← Option.some.inj given]
          exact different
  | abandon other =>
    have different : other ≠ caller := fun same => loyal (by rw [same])
    exact ⟨(waiter?_dismiss different).trans waits, silent⟩
  | elapse span => exact ⟨waits, silent⟩

/-- However much happens, a waiter that neither looks nor leaves waits on. -/
theorem run_waiter? {caller : Nat} {waiter : Waiter} (waits : state.waiter? caller = some waiter)
    {events : List Event}
    (quiet : ∀ event ∈ events, event ≠ .resume caller ∧ event ≠ .abandon caller) :
    (state.run config transport events).1.waiter? caller = some waiter := by
  induction events generalizing state with
  | nil => exact waits
  | cons event later ih =>
    obtain ⟨unseen, loyal⟩ := quiet event List.mem_cons_self
    rw [run_cons]
    exact ih (step_waiter? waits unseen loyal).1 fun other member =>
      quiet other (List.mem_cons_of_mem event member)

/-! ## Looking again -/

/-- A waiter that looks and sees no end changes nothing. -/
theorem step_resume_blind {caller : Nat} {waiter : Waiter}
    (waits : state.waiter? caller = some waiter)
    (blind : state.look config waiter.attempt = (state, none)) :
    state.step config transport (.resume caller) = (state, none) := by
  simp only [step, waits, resume, blind, Option.map_none]

/-- A waiter that looks and sees the end of its attempt gets it. -/
theorem step_resume {caller : Nat} {waiter : Waiter} (waits : state.waiter? caller = some waiter)
    {attempt : Attempt} {outcome : Outcome}
    (found : state.attempts[waiter.attempt]? = some attempt)
    (seen : attempt.look config state.now = some outcome) :
    state.step config transport (.resume caller) =
      ((state.settle waiter.attempt outcome).dismiss caller,
        some ⟨caller, waiter.call, waiter.begun, state.now,
          waiter.purpose.conclude outcome⟩) := by
  simp only [step, waits, resume, look_of_seen found seen, caller_of_waiter? waits,
    Option.map_some]

/-- **A waiter whose attempt has left the slot leaves the slot alone**: it gets the end that is
written down, and but for its waiting nothing changes. -/
theorem step_resume_stale (config : Config) (transport : Transport)
    {faults : List HandshakeFault} (ledger : Ledger state faults) {caller : Nat} {waiter : Waiter}
    (waits : state.waiter? caller = some waiter) {attempt : Attempt}
    (found : state.attempts[waiter.attempt]? = some attempt)
    (stale : state.slot ≠ .pending waiter.attempt) :
    ∃ outcome, attempt.outcome = some outcome ∧
      state.step config transport (.resume caller) =
        (state.dismiss caller, some ⟨caller, waiter.call, waiter.begun, state.now,
          waiter.purpose.conclude outcome⟩) := by
  cases known : attempt.outcome with
  | none => exact absurd (ledger.slot_of_unfinished found known) stale
  | some outcome =>
    have seen : attempt.look config state.now = some outcome := by
      rw [Attempt.look, known]
    refine ⟨outcome, rfl, ?_⟩
    rw [step_resume waits found seen, ledger.settle_stale found seen stale]

end State

/-! ## Bound to an attempt -/

/-- What becomes of a waiter: the first answer to its caller is the end of its attempt, and
until there is one it waits for that attempt. -/
inductive Waiter.Bound (waiter : Waiter) (state : State) (answers : List Answer) : Prop where
  | served (attempt : Attempt) (outcome : Outcome) (ended : Nat)
      (found : state.attempts[waiter.attempt]? = some attempt)
      (known : attempt.outcome = some outcome)
      (first : (answers.find? fun answer => answer.caller == waiter.caller) =
        some ⟨waiter.caller, waiter.call, waiter.begun, ended, waiter.purpose.conclude outcome⟩)
  | waiting (waits : state.waiter? waiter.caller = some waiter)
      (unanswered : (answers.find? fun answer => answer.caller == waiter.caller) = none)

namespace Waiter.Bound

variable {state : State} {waiter : Waiter} {answers : List Answer}

/-- Whoever joins an attempt is bound to it. -/
theorem join (waiter : Waiter) (free : state.waiter? waiter.caller = none) :
    waiter.Bound (state.join config waiter).1
      ((state.join config waiter).2.map fun result =>
        Answer.mk waiter.caller waiter.call waiter.begun waiter.begun result).toList := by
  rcases state.join_cases config waiter with same | ⟨attempt, outcome, found, -, same⟩
  · rw [same]
    exact .waiting (State.waiter?_append_self free) rfl
  · rw [same]
    refine .served _ outcome waiter.begun (State.getElem?_settle found outcome) rfl ?_
    simp

/-- Every event but its own departure keeps a waiter bound. -/
theorem step (bound : waiter.Bound state answers) {event : Event}
    (loyal : event ≠ .abandon waiter.caller) :
    waiter.Bound (state.step config transport event).1
      (answers ++ (state.step config transport event).2.toList) := by
  cases bound with
  | served attempt outcome ended found known first =>
    obtain ⟨still, foundLater, kept⟩ := (state.step_moves event).extends.kept _ attempt found
    refine .served still outcome ended foundLater (kept outcome known) ?_
    rw [List.find?_append, first, Option.some_or]
  | waiting waits unanswered =>
    by_cases looks : event = .resume waiter.caller
    · rw [looks]
      rcases state.look_cases config waiter.attempt with blind | ⟨attempt, outcome, found, seen, -⟩
      · rw [State.step_resume_blind waits blind, Option.toList_none, List.append_nil]
        exact .waiting waits unanswered
      · rw [State.step_resume waits found seen]
        refine .served _ outcome state.now (State.getElem?_settle found outcome) rfl ?_
        simp [List.find?_append, unanswered]
    · obtain ⟨still, others⟩ := State.step_waiter? waits looks loyal
      refine .waiting still ?_
      rw [List.find?_append, unanswered, Option.none_or, List.find?_eq_none]
      intro answer member
      simpa using others answer (Option.mem_toList.mp member)

/-- A waiter that does not leave stays bound throughout a run. -/
theorem run (bound : waiter.Bound state answers) {events : List Event}
    (loyal : .abandon waiter.caller ∉ events) :
    waiter.Bound (state.run config transport events).1
      (answers ++ (state.run config transport events).2) := by
  induction events generalizing state answers with
  | nil =>
    rw [State.run_nil, List.append_nil]
    exact bound
  | cons event later ih =>
    rw [State.run_cons, ← List.append_assoc]
    refine ih (bound.step fun same => loyal ?_) fun member => loyal (List.mem_cons_of_mem _ member)
    rw [same]
    exact List.mem_cons_self

end Waiter.Bound

namespace State

variable {state : State}

/-! ## The main result -/

/-- The attempt that a call for key material begins or joins while there is no key. -/
def joined? (state : State) : Option Nat :=
  match state.slot with
  | .idle => some state.attempts.length
  | .pending number => some number
  | .established _ => none

/-- A call that begins or joins an attempt binds its caller to it. -/
theorem step_call_bound {caller : Nat} (free : state.waiter? caller = none) {call : Call}
    {purpose : Purpose} (needed : call.purpose = .ok purpose) {number : Nat}
    (joined : state.joined? = some number) :
    (Waiter.mk caller call purpose state.now number).Bound
      (state.step config transport (.call caller call)).1
      (state.step config transport (.call caller call)).2.toList := by
  rcases state.call_cases config transport caller call with ⟨busy, -⟩ | ⟨fault, refused, -⟩ |
    ⟨other, material, -, held, -⟩ | ⟨other, place, seated, same, held, origin, called⟩
  · rw [free] at busy
    cases busy
  · cases refused.symm.trans needed
  · rw [joined?, held] at joined
    cases joined
  · cases same.symm.trans needed
    simp only [step, called]
    rcases origin with rfl | ⟨idle, rfl, rfl⟩
    · rw [joined?, held] at joined
      cases joined
      exact .join ⟨caller, call, purpose, seated.now, number⟩ free
    · rw [joined?, idle] at joined
      cases joined
      exact .join ⟨caller, call, purpose, state.now, state.attempts.length⟩ free

/-- A waiter whose attempt is known to have failed gets the failure, whenever it looks, and
touches nothing else. -/
theorem step_resume_failed {faults : List HandshakeFault} (ledger : Ledger state faults)
    {caller : Nat} {waiter : Waiter} (waits : state.waiter? caller = some waiter)
    {attempt : Attempt} (found : state.attempts[waiter.attempt]? = some attempt)
    {fault : HandshakeFault} (failed : attempt.outcome = some (.error fault)) :
    state.step config transport (.resume caller) =
      (state.dismiss caller, some ⟨caller, waiter.call, waiter.begun, state.now,
        .error (.handshake fault)⟩) := by
  have stale : state.slot ≠ .pending waiter.attempt := by
    intro held
    obtain ⟨current, same, unfinished⟩ := ledger.unfinished_of_slot held
    rw [found] at same
    cases same
    rw [failed] at unfinished
    cases unfinished
  obtain ⟨outcome, known, stepped⟩ :=
    step_resume_stale config transport ledger waits found stale
  rw [failed] at known
  cases known
  exact stepped

/-- Once a waiter got the failure of its attempt, another waiter of that attempt gets the same
failure, whatever has happened in between, and touches nothing else. -/
theorem step_resume_after_failure (invariant : Invariant config transport state)
    {first second : Nat} {former latter : Waiter}
    (waitsFirst : state.waiter? first = some former)
    (waitsSecond : state.waiter? second = some latter) (shared : latter.attempt = former.attempt)
    (different : first ≠ second) {failure : Answer} {fault : Fault}
    (given : (state.step config transport (.resume first)).2 = some failure)
    (failed : failure.result = .error fault) {between : List Event}
    (quiet : ∀ event ∈ between, event ≠ .resume second ∧ event ≠ .abandon second) :
    let later := (state.run config transport (.resume first :: between)).1
    later.step config transport (.resume second) =
      (later.dismiss second,
        some ⟨second, latter.call, latter.begun, later.now, .error fault⟩) := by
  intro later
  rcases state.look_cases config former.attempt with blind | ⟨attempt, outcome, found, seen, -⟩
  · rw [step_resume_blind waitsFirst blind] at given
    cases given
  · rw [step_resume waitsFirst found seen] at given
    cases given
    cases outcome with
    | ok material => cases failed
    | error cause =>
      cases failed
      -- The end is written down by the first look and stays written down.
      have written : (state.step config transport (.resume first)).1.attempts[latter.attempt]? =
          some { attempt with outcome := some (.error cause) } := by
        rw [step_resume waitsFirst found seen, shared]
        exact getElem?_settle found (.error cause)
      obtain ⟨still, foundLater, kept⟩ :=
        (run_moves (state.step config transport (.resume first)).1 between).extends.kept _ _ written
      have waitsLater : later.waiter? second = some latter := by
        refine run_waiter? waitsSecond fun event member => ?_
        rcases List.mem_cons.mp member with same | after
        · rw [same]
          refine ⟨fun same => different (Event.resume.inj same), ?_⟩
          intro impossible
          cases impossible
        · exact quiet event after
      have reached : Moves config transport state later :=
        state.run_moves (.resume first :: between)
      obtain ⟨faults, ledger⟩ := (invariant.moves reached).ledger
      exact step_resume_failed ledger waitsLater foundLater (kept _ rfl)

/-- **Coalescing.**  In every reachable state:

* a caller that begins or joins an attempt and does not leave gets the end of this attempt as its
  first answer, or waits for it still;
* a caller that waits gets what a look at its attempt shows, which is its end once it is due; if
  the attempt is no longer in the slot, its end is known and nothing but the waiting changes;
* after a waiter got the failure of an attempt, and whatever was begun since, another waiter of
  that attempt gets the same failure, and nothing but the waiting changes. -/
theorem coalescing (config : Config) (transport : Transport) (start : Nat)
    (events : List Event) :
    let state := ((fresh start).run config transport events).1
    (∀ (caller : Nat) (call : Call) (purpose : Purpose) (number : Nat) (later : List Event),
        state.waiter? caller = none → call.purpose = .ok purpose →
        state.joined? = some number → .abandon caller ∉ later →
        (Waiter.mk caller call purpose state.now number).Bound
          (state.run config transport (.call caller call :: later)).1
          (state.run config transport (.call caller call :: later)).2) ∧
      (∀ (caller : Nat) (waiter : Waiter), state.waiter? caller = some waiter →
        ∃ attempt, state.attempts[waiter.attempt]? = some attempt ∧
          (state.step config transport (.resume caller)).2 =
            (attempt.look config state.now).map (fun outcome =>
              ⟨caller, waiter.call, waiter.begun, state.now, waiter.purpose.conclude outcome⟩) ∧
          (attempt.dueAt config.limit ≤ state.now → (attempt.look config state.now).isSome) ∧
          (state.slot ≠ .pending waiter.attempt →
            attempt.outcome.isSome ∧
              (state.step config transport (.resume caller)).1 = state.dismiss caller)) ∧
      ∀ (first second : Nat) (former latter : Waiter) (failure : Answer) (fault : Fault)
        (between : List Event),
        state.waiter? first = some former → state.waiter? second = some latter →
        latter.attempt = former.attempt → first ≠ second →
        (state.step config transport (.resume first)).2 = some failure →
        failure.result = .error fault →
        (∀ event ∈ between, event ≠ .resume second ∧ event ≠ .abandon second) →
        let later := (state.run config transport (.resume first :: between)).1
        later.step config transport (.resume second) =
          (later.dismiss second,
            some ⟨second, latter.call, latter.begun, later.now, .error fault⟩) := by
  intro state
  have invariant : Invariant config transport state := .run start events
  obtain ⟨faults, ledger⟩ := invariant.ledger
  refine ⟨?_, ?_, ?_⟩
  · intro caller call purpose number later free needed joined loyal
    rw [run_cons]
    exact (step_call_bound free needed joined).run loyal
  · intro caller waiter waits
    have begun := invariant.begun waiter (mem_of_waiter? waits)
    have found := List.getElem?_eq_getElem begun
    refine ⟨_, found, ?_, Attempt.look_of_due, ?_⟩
    · cases seen : (state.attempts[waiter.attempt]).look config state.now with
      | none =>
        have blind : state.look config waiter.attempt = (state, none) := by
          rw [look, found]
          simp only [seen]
        rw [step_resume_blind waits blind, Option.map_none]
      | some outcome => rw [step_resume waits found seen, Option.map_some]
    · intro stale
      obtain ⟨outcome, known, stepped⟩ :=
        step_resume_stale config transport ledger waits found stale
      rw [known, stepped]
      exact ⟨rfl, rfl⟩
  · intro first second former latter failure fault between waitsFirst waitsSecond shared different
      given failed quiet
    exact step_resume_after_failure invariant waitsFirst waitsSecond shared different given failed
      quiet

/-- Two callers share a refused exchange; one tries again, and its second attempt is still under
way when the other one learns of the refusal. -/
theorem coalescing_retry :
    let config : Config := ⟨KeyPair.withExponent Group.legacy.parameters 5, 10⟩
    let transport : Transport := fun number _ =>
      match number with
      | 0 => ⟨some 5, .error (.transport "refused")⟩
      | _ => ⟨none, .error (.transport "lost")⟩
    let shared := ((fresh 0).run config transport [.call 0 .ensure, .call 1 .ensure, .elapse 5]).1
    let retried := (shared.run config transport [.resume 1, .call 1 .ensure]).1
    retried.slot = .pending 1 ∧
      retried.step config transport (.resume 0) =
        (retried.dismiss 0,
          some ⟨0, .ensure, 0, 5, .error (.handshake (.transport "refused"))⟩) ∧
      (∃ attempt, retried.attempts[0]? = some attempt ∧ attempt.outcome.isSome) ∧
      (Waiter.mk 0 .ensure .presence 0 0).Bound
        ((fresh 0).run config transport [.call 0 .ensure, .elapse 5]).1
        ((fresh 0).run config transport [.call 0 .ensure, .elapse 5]).2 := by
  intro config transport shared retried
  obtain ⟨bound, -, -⟩ := coalescing config transport 0 []
  obtain ⟨-, looks, -⟩ := coalescing config transport 0
    [.call 0 .ensure, .call 1 .ensure, .elapse 5, .resume 1, .call 1 .ensure]
  obtain ⟨-, -, retry⟩ := coalescing config transport 0
    [.call 0 .ensure, .call 1 .ensure, .elapse 5]
  obtain ⟨attempt, found, -, -, stale⟩ := looks 0 ⟨0, .ensure, .presence, 0, 0⟩ rfl
  refine ⟨rfl, ?_, ⟨attempt, found, (stale (by decide)).1⟩, ?_⟩
  · exact retry 1 0 ⟨1, .ensure, .presence, 0, 0⟩ ⟨0, .ensure, .presence, 0, 0⟩
      ⟨1, .ensure, 0, 5, .error (.handshake (.transport "refused"))⟩ _ [.call 1 .ensure] rfl rfl
      rfl (by decide) rfl rfl (by simp)
  · exact bound 0 .ensure .presence 0 [.elapse 5] rfl rfl rfl (by simp)

end State

end SealedCredentials.Channel
