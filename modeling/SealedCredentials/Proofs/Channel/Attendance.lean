import SealedCredentials.Proofs.Channel.Coalescing

/-!
# When an attempt ends

An attempt makes progress only while somebody attends to it: a caller that waits for it looks
again or lets time pass, or a call joins it (`State.attends`).  From its due instant on, the first
event that attends to it ends it, and nothing else does (`State.step_ended?`).  So the end of every
attempt of a run can be read off the events: it comes at the first instant, no earlier than the
due one, at which somebody attends to it, and it is the answer's if the answer is there at this
instant, and the limit's if not (`State.run_outcome`).

Runs are timely here: whoever waits looks again before time passes over the due instant of its
attempt.  A caller that leaves at an instant without another look does not attend at that instant.
-/

set_option autoImplicit false

namespace SealedCredentials.Channel

variable {config : Config} {transport : Transport}

/-! ## What a look at an unfinished attempt shows -/

namespace Attempt

/-- How an attempt ends if somebody looks at it at an instant at which it is due.  An answer that
is there counts, even if the limit has passed at the same instant. -/
def outcomeAt (attempt : Attempt) (config : Config) (instant : Nat) : Outcome :=
  if attempt.answered instant then config.conclude attempt.exchange.answer
  else .error (.timedOut config.limit)

/-- The attempt as it was begun. -/
def begun (attempt : Attempt) : Attempt := { attempt with outcome := none }

/-- An answer that is there makes an attempt due, and so does the limit. -/
theorem dueAt_le_iff {attempt : Attempt} {now : Nat} :
    attempt.dueAt config.limit ≤ now ↔
      attempt.answered now = true ∨ attempt.startedAt + config.limit ≤ now := by
  unfold dueAt answered
  cases attempt.exchange.delay with
  | none => simp only [Bool.false_eq_true, false_or]
  | some span =>
    simp only [decide_eq_true_eq]
    omega

/-- A look at an unfinished attempt shows its end from the due instant on. -/
theorem look_of_unfinished {attempt : Attempt} (unfinished : attempt.outcome = none)
    (config : Config) (now : Nat) :
    attempt.look config now =
      if attempt.dueAt config.limit ≤ now then some (attempt.outcomeAt config now) else none := by
  rw [look, unfinished]
  simp only [outcomeAt, dueAt_le_iff]
  by_cases answered : attempt.answered now = true
  · simp only [answered, if_true, true_or]
  · simp only [answered, Bool.false_eq_true, if_false, false_or]

end Attempt

namespace State

variable {state : State}

/-! ## Ends that are known -/

/-- The end of the attempt of a number, if it was begun and its end is known. -/
def ended? (state : State) (number : Nat) : Option Outcome :=
  state.attempts[number]?.bind Attempt.outcome

theorem ended?_of_found {number : Nat} {attempt : Attempt}
    (found : state.attempts[number]? = some attempt) : state.ended? number = attempt.outcome := by
  rw [ended?, found, Option.bind_some]

/-- An attempt keeps its end, once it is known. -/
theorem run_ended? {number : Nat} {outcome : Outcome} (known : state.ended? number = some outcome)
    (events : List Event) : (state.run config transport events).1.ended? number = some outcome := by
  obtain ⟨attempt, found, written⟩ := Option.bind_eq_some_iff.mp known
  obtain ⟨still, foundLater, kept⟩ := (run_moves state events).extends.kept number attempt found
  rw [ended?_of_found foundLater, kept outcome written]

/-- A look ends the attempt that it is at, if this one is due, and no other. -/
theorem ended?_look {number place : Nat} {attempt : Attempt}
    (unfinished : state.ended? number = none)
    (found : (state.look config place).1.attempts[number]? = some attempt) :
    (state.look config place).1.ended? number =
      if attempt.dueAt config.limit ≤ state.now ∧ place = number then
        some (attempt.outcomeAt config state.now)
      else none := by
  rcases state.look_cases config place with blind | ⟨looked, outcome, there, seen, same⟩
  · rw [blind] at found ⊢
    rw [unfinished, if_neg]
    rintro ⟨due, rfl⟩
    rw [ended?_of_found found] at unfinished
    have seen := Attempt.look_of_unfinished unfinished config state.now
    rw [if_pos due] at seen
    have shown := congrArg Prod.snd blind
    rw [look_of_seen found seen] at shown
    cases shown
  · rw [same] at found ⊢
    by_cases here : place = number
    · subst here
      rw [ended?_of_found there] at unfinished
      rw [getElem?_settle there outcome] at found
      cases found
      rw [Attempt.look_of_unfinished unfinished, Option.ite_none_right_eq_some] at seen
      obtain ⟨due, shown⟩ := seen
      rw [ended?_of_found (getElem?_settle there outcome), if_pos ⟨due, rfl⟩, ← shown]
      rfl
    · have untouched :
          (state.settle place outcome).attempts[number]? = state.attempts[number]? := by
        rw [settle_attempts, List.getElem?_modify]
        simp [here]
      rw [if_neg fun both => here both.2, ended?, untouched]
      exact unfinished

/-! ## Events that attend to an attempt -/

/-- Whether an event attends to the attempt of a number: a caller that waits for it looks again or
lets time pass, or a call joins or begins it. -/
def attends (state : State) (number : Nat) : Event → Bool
  | .call caller call =>
    (state.waiter? caller).isNone && call.purpose.isOk && state.joined? == some number
  | .resume caller => (state.waiter? caller).any fun waiter => waiter.attempt == number
  | .abandon _ => false
  | .elapse span => 0 < span && state.waiting.any fun waiter => waiter.attempt == number

/-- Whoever joins an attempt looks at it, and whatever else happens to the attempts does not
matter. -/
theorem attempts_join (state : State) (config : Config) (waiter : Waiter) :
    (state.join config waiter).1.attempts = (state.look config waiter.attempt).1.attempts := by
  rw [join]
  rcases state.look config waiter.attempt with ⟨seen, _ | outcome⟩
  · rfl
  · rfl

theorem attempts_resume (state : State) (config : Config) (waiter : Waiter) :
    (state.resume config waiter).1.attempts = (state.look config waiter.attempt).1.attempts := by
  rw [resume]
  rcases state.look config waiter.attempt with ⟨seen, _ | outcome⟩
  · rfl
  · rfl

/-- To begin an attempt ends none. -/
theorem ended?_start (state : State) (config : Config) (transport : Transport) (number : Nat) :
    (state.start config transport).ended? number = state.ended? number := by
  rw [ended?, start]
  rcases Nat.lt_or_ge number state.attempts.length with early | late
  · rw [List.getElem?_append_left early, ended?]
  · rw [List.getElem?_append_right late, List.getElem?_singleton, ended?,
      List.getElem?_eq_none late]
    split
    · rfl
    · rfl

/-- A call for key material joins the attempt under way. -/
theorem call_of_pending (config : Config) (transport : Transport) {caller : Nat}
    (free : state.waiter? caller = none) {call : Call} {purpose : Purpose}
    (needed : call.purpose = .ok purpose) {number : Nat} (held : state.slot = .pending number) :
    state.call config transport caller call =
      state.join config ⟨caller, call, purpose, state.now, number⟩ := by
  simp only [State.call, free, Option.isSome_none, Bool.false_eq_true, if_false, needed, demand,
    held]

/-- A call for key material begins an attempt if there is none. -/
theorem call_of_idle (config : Config) (transport : Transport) {caller : Nat}
    (free : state.waiter? caller = none) {call : Call} {purpose : Purpose}
    (needed : call.purpose = .ok purpose) (idle : state.slot = .idle) :
    state.call config transport caller call =
      (state.start config transport).join config
        ⟨caller, call, purpose, state.now, state.attempts.length⟩ := by
  simp only [State.call, free, Option.isSome_none, Bool.false_eq_true, if_false, needed, demand,
    idle]

/-- A call for key material is served at once if there is a key. -/
theorem call_of_established (config : Config) (transport : Transport) {caller : Nat}
    (free : state.waiter? caller = none) {call : Call} {purpose : Purpose}
    (needed : call.purpose = .ok purpose) {material : Envelope.Material}
    (held : state.slot = .established material) :
    state.call config transport caller call = (state, some (.ok (purpose.serve material))) := by
  simp only [State.call, free, Option.isSome_none, Bool.false_eq_true, if_false, needed, demand,
    held]

/-- A call for key material, while there is no key, joins the attempt in the slot, which it begins
if there is none. -/
theorem call_of_joined (config : Config) (transport : Transport) {caller : Nat}
    (free : state.waiter? caller = none) {call : Call} {purpose : Purpose}
    (needed : call.purpose = .ok purpose) {place : Nat} (joined : state.joined? = some place) :
    ∃ seated, (seated = state ∨ state.slot = .idle ∧ place = state.attempts.length ∧
        seated = state.start config transport) ∧ seated.slot = .pending place ∧
      state.call config transport caller call =
        seated.join config ⟨caller, call, purpose, state.now, place⟩ := by
  cases held : state.slot with
  | idle =>
    rw [joined?, held] at joined
    cases joined
    exact ⟨_, .inr ⟨rfl, rfl, rfl⟩, rfl, call_of_idle config transport free needed held⟩
  | pending number =>
    rw [joined?, held] at joined
    cases joined
    exact ⟨state, .inl rfl, held, call_of_pending config transport free needed held⟩
  | established material =>
    rw [joined?, held] at joined
    cases joined

/-- A call joins or begins an attempt, or it attends to none and changes nothing. -/
theorem call_joins_or_unattended (config : Config) (transport : Transport) (state : State)
    (caller : Nat) (call : Call) :
    (∃ purpose place, state.waiter? caller = none ∧ call.purpose = .ok purpose ∧
        state.joined? = some place) ∨
      (state.call config transport caller call).1 = state ∧
        ∀ number, state.attends number (.call caller call) = false := by
  cases free : state.waiter? caller with
  | some waiter =>
    refine .inr ⟨?_, fun number => ?_⟩
    · rw [State.call, free, Option.isSome_some, if_pos rfl]
    · rw [attends, free]
      rfl
  | none =>
    rcases state.call_cases config transport caller call with ⟨busy, -⟩ | ⟨fault, refused, same⟩ |
      ⟨purpose, material, -, held, same⟩ | ⟨purpose, place, seated, needed, held, origin, -⟩
    · rw [free] at busy
      cases busy
    · refine .inr ⟨congrArg Prod.fst same, fun number => ?_⟩
      rw [attends, free, refused]
      rfl
    · refine .inr ⟨congrArg Prod.fst same, fun number => ?_⟩
      rw [attends, joined?, held]
      exact Bool.and_false _
    · rcases origin with rfl | ⟨idle, -, -⟩
      · exact .inl ⟨purpose, place, rfl, needed, by rw [joined?, held]⟩
      · exact .inl ⟨purpose, state.attempts.length, rfl, needed, by rw [joined?, idle]⟩

/-- A call of a caller that does not wait attends to the attempt that it joins or begins. -/
theorem attends_call {number place caller : Nat} {call : Call} {purpose : Purpose}
    (free : state.waiter? caller = none) (needed : call.purpose = .ok purpose)
    (joined : state.joined? = some place) :
    state.attends number (.call caller call) = true ↔ place = number := by
  rw [attends, free, needed, joined]
  simp [Except.isOk, Except.toBool]

/-- A call looks at the attempt that it joins or begins, and at no other. -/
theorem ended?_call {number caller : Nat} {call : Call} {attempt : Attempt}
    (unfinished : state.ended? number = none)
    (found : (state.call config transport caller call).1.attempts[number]? = some attempt) :
    (state.call config transport caller call).1.ended? number =
      if attempt.dueAt config.limit ≤ state.now ∧ state.attends number (.call caller call) then
        some (attempt.outcomeAt config state.now)
      else none := by
  rcases state.call_joins_or_unattended config transport caller call with
    ⟨purpose, place, free, needed, joined⟩ | ⟨same, unattended⟩
  · obtain ⟨seated, origin, -, same⟩ := call_of_joined config transport free needed joined
    have unknown : seated.ended? number = none := by
      rcases origin with rfl | ⟨-, -, rfl⟩
      · exact unfinished
      · rw [ended?_start]
        exact unfinished
    rw [same, attempts_join] at found
    rw [same, ended?, attempts_join, ← ended?, ended?_look unknown found, (seated_kept origin).1]
    simp only [attends_call free needed joined]
  · rw [same, unfinished, unattended]
    simp

/-- A second look is at the attempt that the caller waits for. -/
theorem ended?_resume {number caller : Nat} {waiter : Waiter} {attempt : Attempt}
    (waits : state.waiter? caller = some waiter) (unfinished : state.ended? number = none)
    (found : (state.resume config waiter).1.attempts[number]? = some attempt) :
    (state.resume config waiter).1.ended? number =
      if attempt.dueAt config.limit ≤ state.now ∧ state.attends number (.resume caller) then
        some (attempt.outcomeAt config state.now)
      else none := by
  have attended : state.attends number (.resume caller) = true ↔ waiter.attempt = number := by
    rw [attends, waits]
    simp
  rw [attempts_resume] at found
  rw [ended?, attempts_resume, ← ended?, ended?_look unfinished found]
  simp only [attended]

/-! ## Timely events -/

/-- Whether no caller lets time pass over the due instant of its attempt. -/
theorem timely_cons {event : Event} {later : List Event} :
    timely config transport state (event :: later) = true ↔
      (∀ span, event = .elapse span → state.waits config span = true) ∧
        timely config transport (state.step config transport event).1 later = true := by
  cases event with
  | elapse span => simp only [timely, Bool.and_eq_true, Event.elapse.injEq, forall_eq']
  | call caller call =>
    simp only [timely, Bool.true_and, reduceCtorEq, false_implies, implies_true, true_and]
  | resume caller =>
    simp only [timely, Bool.true_and, reduceCtorEq, false_implies, implies_true, true_and]
  | abandon caller =>
    simp only [timely, Bool.true_and, reduceCtorEq, false_implies, implies_true, true_and]

/-- A run is timely if its first part is and what follows is from there on. -/
theorem timely_append {earlier later : List Event} :
    timely config transport state (earlier ++ later) = true ↔
      timely config transport state earlier = true ∧
        timely config transport (state.run config transport earlier).1 later = true := by
  induction earlier generalizing state with
  | nil => exact ⟨fun rest => ⟨rfl, rest⟩, And.right⟩
  | cons event rest ih =>
    rw [List.cons_append, timely_cons, timely_cons, ih, run_cons, and_assoc]

/-- Whoever lets time pass waits for an attempt that is not due before the end of it. -/
theorem le_dueAt_of_waits {span : Nat} (positive : 0 < span)
    (waits : state.waits config span = true) {waiter : Waiter} (member : waiter ∈ state.waiting)
    {attempt : Attempt} (found : state.attempts[waiter.attempt]? = some attempt) :
    state.now + span ≤ attempt.dueAt config.limit := by
  unfold State.waits at waits
  rw [Bool.or_eq_true, beq_iff_eq, List.all_eq_true] at waits
  rcases waits with none | all
  · omega
  · have own := all waiter member
    rw [found] at own
    simp only [Bool.and_eq_true, decide_eq_true_eq] at own
    exact own.2

/-- **An unfinished attempt ends with an event exactly if it is due and the event attends to
it.** -/
theorem step_ended? {number : Nat} {event : Event} {attempt : Attempt}
    (timely : ∀ span, event = .elapse span → state.waits config span = true)
    (unfinished : state.ended? number = none)
    (found : (state.step config transport event).1.attempts[number]? = some attempt) :
    (state.step config transport event).1.ended? number =
      if attempt.dueAt config.limit ≤ state.now ∧ state.attends number event then
        some (attempt.outcomeAt config state.now)
      else none := by
  cases event with
  | call caller call => exact ended?_call unfinished found
  | resume caller =>
    cases waits : state.waiter? caller with
    | none =>
      simp only [step, waits, attends]
      rw [unfinished]
      simp
    | some waiter =>
      simp only [step, waits] at found ⊢
      exact ended?_resume waits unfinished found
  | abandon caller =>
    rw [if_neg fun both => Bool.false_ne_true both.2]
    exact unfinished
  | elapse span =>
    rw [if_neg]
    · exact unfinished
    · rintro ⟨due, attended⟩
      simp only [attends, Bool.and_eq_true, decide_eq_true_eq, List.any_eq_true,
        beq_iff_eq] at attended
      obtain ⟨positive, waiter, member, rfl⟩ := attended
      have bound := le_dueAt_of_waits positive (timely span rfl) member found
      omega

end State

/-! ## Attempts as they were begun -/

/-- To write down the end of an attempt changes none as it was begun. -/
theorem State.map_begun_settle (state : State) (number : Nat) (outcome : Outcome) :
    (state.settle number outcome).attempts.map Attempt.begun =
      state.attempts.map Attempt.begun := by
  rw [settle_attempts]
  refine List.ext_getElem? fun other => ?_
  rw [List.getElem?_map, List.getElem?_modify, List.getElem?_map, Option.map_eq_map,
    Option.map_map]
  refine congrArg (Option.map · _) (funext fun attempt => ?_)
  by_cases here : number = other
  · simp [here, Attempt.begun]
  · simp [here]

/-- A move keeps every attempt as it was begun. -/
theorem Move.begun_prefix {state next : State} (taken : Move config transport state next) :
    state.attempts.map Attempt.begun <+: next.attempts.map Attempt.begun := by
  cases taken with
  | start idle =>
    rw [State.start, List.map_append]
    exact List.prefix_append _ _
  | @settle place looked outcome found seen =>
    exact ⟨[], by rw [List.append_nil, state.map_begun_settle place outcome]⟩
  | enlist current purpose => exact List.prefix_rfl
  | dismiss caller => exact List.prefix_rfl
  | elapse span => exact List.prefix_rfl

theorem Moves.begun_prefix {state next : State} (taken : Moves config transport state next) :
    state.attempts.map Attempt.begun <+: next.attempts.map Attempt.begun := by
  induction taken with
  | refl => exact List.prefix_rfl
  | tail _ last ih => exact ih.trans last.begun_prefix

/-- An attempt that is found again is the one that was begun. -/
theorem Moves.begun_eq {state next : State} (taken : Moves config transport state next)
    {number : Nat} {former latter : Attempt} (found : state.attempts[number]? = some former)
    (foundLater : next.attempts[number]? = some latter) : latter.begun = former.begun := by
  obtain ⟨more, same⟩ := taken.begun_prefix
  have place := congrArg (·[number]?) same
  have inside : number < (state.attempts.map Attempt.begun).length := by
    rw [List.length_map]
    exact (List.getElem?_eq_some_iff.mp found).1
  simp only [List.getElem?_append_left inside, List.getElem?_map, found, foundLater,
    Option.map_some, Option.some.injEq] at place
  exact place.symm

namespace Attempt

theorem startedAt_of_begun {former latter : Attempt} (same : latter.begun = former.begun) :
    latter.startedAt = former.startedAt := by
  change latter.begun.startedAt = former.begun.startedAt
  rw [same]

/-- When an attempt is due and how it ends depends on how it was begun. -/
theorem dueAt_of_begun {former latter : Attempt} (same : latter.begun = former.begun)
    (limit : Nat) : latter.dueAt limit = former.dueAt limit := by
  change latter.begun.dueAt limit = former.begun.dueAt limit
  rw [same]

theorem outcomeAt_of_begun {former latter : Attempt} (same : latter.begun = former.begun) :
    latter.outcomeAt config = former.outcomeAt config := by
  change latter.begun.outcomeAt config = former.begun.outcomeAt config
  rw [same]

end Attempt

namespace State

variable {state : State}

/-! ## The end of an attempt, read off the events -/

/-- What an event attends to is an attempt that was begun, perhaps by this event. -/
theorem exists_of_attends (invariant : Invariant config transport state) {number : Nat}
    {event : Event} (attended : state.attends number event = true) :
    ∃ attempt, (state.step config transport event).1.attempts[number]? = some attempt := by
  have later {attempt : Attempt} (found : state.attempts[number]? = some attempt) :
      ∃ attempt, (state.step config transport event).1.attempts[number]? = some attempt := by
    obtain ⟨still, foundLater, -⟩ := (state.step_moves event).extends.kept number attempt found
    exact ⟨still, foundLater⟩
  have waited {waiter : Waiter} (member : waiter ∈ state.waiting)
      (its : waiter.attempt = number) : ∃ attempt, state.attempts[number]? = some attempt := by
    rw [← its]
    exact ⟨_, List.getElem?_eq_getElem (invariant.begun waiter member)⟩
  cases event with
  | call caller call =>
    simp only [attends, Bool.and_eq_true, Option.isNone_iff_eq_none, beq_iff_eq] at attended
    obtain ⟨⟨free, readable⟩, joined⟩ := attended
    cases needed : call.purpose with
    | error fault =>
      rw [needed] at readable
      cases readable
    | ok purpose =>
      obtain ⟨seated, origin, held, same⟩ :=
        call_of_joined config transport free needed joined
      have there : ∃ attempt, seated.attempts[number]? = some attempt := by
        rcases origin with rfl | ⟨-, -, rfl⟩
        · obtain ⟨faults, ledger⟩ := invariant.ledger
          obtain ⟨attempt, found, -⟩ := ledger.unfinished_of_slot held
          exact ⟨attempt, found⟩
        · cases held
          exact ⟨_, by rw [start, List.getElem?_append_right (Nat.le_refl _), Nat.sub_self]; rfl⟩
      obtain ⟨attempt, found⟩ := there
      have moves : Moves config transport seated (state.call config transport caller call).1 := by
        rw [same]
        exact join_moves held needed
      obtain ⟨still, foundLater, -⟩ := moves.extends.kept number attempt found
      exact ⟨still, foundLater⟩
  | resume caller =>
    simp only [attends, Option.any_eq_true, beq_iff_eq] at attended
    obtain ⟨waiter, waits, its⟩ := attended
    obtain ⟨attempt, found⟩ := waited (mem_of_waiter? waits) its
    exact later found
  | abandon caller => cases attended
  | elapse span =>
    simp only [attends, Bool.and_eq_true, List.any_eq_true, beq_iff_eq] at attended
    obtain ⟨-, waiter, member, its⟩ := attended
    obtain ⟨attempt, found⟩ := waited member its
    exact later found

/-- The instant of the first event, no earlier than a due instant, that attends to the attempt of a
number. -/
def firstAttended (config : Config) (transport : Transport) (number due : Nat) :
    State → List Event → Option Nat
  | _, [] => none
  | state, event :: later =>
    if due ≤ state.now ∧ state.attends number event then some state.now
    else firstAttended config transport number due (state.step config transport event).1 later

/-- **An attempt ends at the first instant, no earlier than its due one, at which somebody attends
to it**, and if there is no such instant its end is unknown. -/
theorem run_outcome (invariant : Invariant config transport state) {events : List Event}
    (timely : timely config transport state events = true) {number : Nat}
    (unfinished : state.ended? number = none) {attempt : Attempt}
    (found : (state.run config transport events).1.attempts[number]? = some attempt) :
    attempt.outcome =
      (firstAttended config transport number (attempt.dueAt config.limit) state events).map
        (attempt.outcomeAt config) := by
  induction events generalizing state with
  | nil =>
    rw [firstAttended, Option.map_none, ← unfinished]
    exact (ended?_of_found found).symm
  | cons event later ih =>
    obtain ⟨paced, timelyLater⟩ := timely_cons.mp timely
    rw [run_cons] at found
    rw [firstAttended]
    cases foundNext : (state.step config transport event).1.attempts[number]? with
    | none =>
      have unattended : ¬ state.attends number event = true := by
        intro attended
        obtain ⟨begun, there⟩ := exists_of_attends invariant attended
        rw [foundNext] at there
        cases there
      rw [if_neg fun both => unattended both.2]
      refine ih (invariant.step event) timelyLater ?_ found
      rw [ended?, foundNext, Option.bind_none]
    | some next =>
      have same : attempt.begun = next.begun :=
        (run_moves _ later).begun_eq foundNext found
      have ends := step_ended? paced unfinished foundNext
      rw [← Attempt.dueAt_of_begun same, ← Attempt.outcomeAt_of_begun same] at ends
      by_cases now : attempt.dueAt config.limit ≤ state.now ∧ state.attends number event
      · rw [if_pos now] at ends ⊢
        rw [Option.map_some, ← ended?_of_found found]
        exact run_ended? ends later
      · rw [if_neg now] at ends ⊢
        exact ih (invariant.step event) timelyLater ends found

end State

end SealedCredentials.Channel
