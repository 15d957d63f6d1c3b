import SealedCredentials.Proofs.Channel.Turns

/-!
# A departure goes unnoticed

Take a run in which a caller leaves the attempt that it waits for, and the run of the same events
in which it stays and only looks on.  No event of another can tell whether a caller waits
(`State.step_dismiss`), so the two runs differ at most while the one who stayed has seen the end of
the attempt and the others have not.  Until then the states agree but for the waiter, and after it
they agree altogether (`Shadow`).

The difference lasts no longer than the instant at which the attempt comes due: somebody else waits
for it too, and looks before time passes on.  Only a call at this very instant could meet it, since
it would find the slot cleared in one run and not in the other.  Without such a call the others get
the same answers at the same time and the same exchanges are made (`State.departure_unnoticed`).
-/

set_option autoImplicit false

namespace SealedCredentials.Channel

open SealedCredentials.Agreement

variable {config : Config} {transport : Transport}

/-- The events in which a caller takes no part. -/
def Event.without (caller : Nat) (events : List Event) : List Event :=
  events.filter fun event => event.caller? != some caller

namespace State

/-! ## Nobody sees whether another one waits -/

section Frame

variable (state : State) (caller : Nat)

theorem settle_dismiss (number : Nat) (outcome : Outcome) :
    (state.dismiss caller).settle number outcome =
      (state.settle number outcome).dismiss caller := by
  rw [dismiss, dismiss, settle_with_waiting, settle_waiting]

theorem dismiss_comm (other : Nat) :
    (state.dismiss caller).dismiss other = (state.dismiss other).dismiss caller := by
  simp only [dismiss, List.filter_filter, Bool.and_comm]

theorem look_dismiss (number : Nat) :
    (state.dismiss caller).look config number =
      ((state.look config number).1.dismiss caller, (state.look config number).2) := by
  rw [dismiss, dismiss, look_with_waiting, look_waiting]

theorem join_dismiss {waiter : Waiter} (other : waiter.caller ≠ caller) :
    (state.dismiss caller).join config waiter =
      ((state.join config waiter).1.dismiss caller, (state.join config waiter).2) := by
  rw [join, join, look_dismiss]
  rcases state.look config waiter.attempt with ⟨seen, _ | outcome⟩
  · simp [dismiss, List.filter_append, other]
  · rfl

theorem demand_dismiss {other : Nat} (different : other ≠ caller) (call : Call)
    (purpose : Purpose) :
    (state.dismiss caller).demand config transport other call purpose =
      ((state.demand config transport other call purpose).1.dismiss caller,
        (state.demand config transport other call purpose).2) := by
  have kept : (state.dismiss caller).slot = state.slot := rfl
  simp only [demand, kept]
  cases state.slot with
  | established material => rfl
  | pending number => exact state.join_dismiss caller different
  | idle => exact (state.start config transport).join_dismiss caller different

theorem call_dismiss {other : Nat} (different : other ≠ caller) (call : Call) :
    (state.dismiss caller).call config transport other call =
      ((state.call config transport other call).1.dismiss caller,
        (state.call config transport other call).2) := by
  simp only [State.call, waiter?_dismiss (Ne.symm different)]
  split
  · rfl
  · cases call.purpose with
    | error fault => rfl
    | ok purpose => exact state.demand_dismiss caller different call purpose

theorem resume_dismiss (waiter : Waiter) :
    (state.dismiss caller).resume config waiter =
      ((state.resume config waiter).1.dismiss caller, (state.resume config waiter).2) := by
  rw [resume, resume, look_dismiss]
  rcases state.look config waiter.attempt with ⟨seen, _ | outcome⟩
  · rfl
  · simp only [dismiss_comm]

/-- **An event of another cannot tell whether a caller waits.** -/
theorem step_dismiss {event : Event} (other : event.caller? ≠ some caller) :
    (state.dismiss caller).step config transport event =
      ((state.step config transport event).1.dismiss caller,
        (state.step config transport event).2) := by
  cases event with
  | call mine call =>
    have different : mine ≠ caller := fun same => other (congrArg some same)
    simp only [step, state.call_dismiss caller different]
    rfl
  | resume mine =>
    have different : caller ≠ mine := fun same => other (congrArg some same.symm)
    simp only [step, waiter?_dismiss different]
    cases state.waiter? mine with
    | none => rfl
    | some waiter =>
      simp only [resume_dismiss]
      rfl
  | abandon mine => simp only [step, dismiss_comm]
  | elapse span => rfl

end Frame

variable {state : State}

/-- To dismiss a caller that does not wait changes nothing. -/
theorem dismiss_of_absent {caller : Nat} (absent : state.waiter? caller = none) :
    state.dismiss caller = state := by
  have all : state.waiting.filter (fun waiter => waiter.caller != caller) = state.waiting :=
    List.filter_eq_self.mpr fun waiter member =>
      bne_iff_ne.mpr (waiter?_eq_none_iff.mp absent waiter member)
  rw [dismiss, all]

/-- Others do not make a caller wait. -/
theorem waiter?_step_of_absent {caller : Nat} (absent : state.waiter? caller = none)
    {event : Event} (other : event.caller? ≠ some caller) :
    (state.step config transport event).1.waiter? caller = none := by
  rw [waiter?_eq_none_iff] at absent ⊢
  intro waiter waits
  rcases mem_waiting_step waits with before | ⟨rfl, -⟩
  · exact absent waiter before
  · exact fun same => other (congrArg some same)

/-- An event of another does not change what a caller waits for. -/
theorem waiter?_step_of_other {caller : Nat} {event : Event} (other : event.caller? ≠ some caller) :
    (state.step config transport event).1.waiter? caller = state.waiter? caller := by
  cases place : state.waiter? caller with
  | none => exact waiter?_step_of_absent place other
  | some waiter =>
    refine (step_waiter? place ?_ ?_).1
    · rintro rfl
      exact other rfl
    · rintro rfl
      exact other rfl

/-- Once the end of the attempt in the slot is written down, the slot holds none. -/
theorem slot_settle_ne_pending {number : Nat} (held : state.slot = .pending number)
    (outcome : Outcome) (place : Nat) : (state.settle number outcome).slot ≠ .pending place := by
  intro pending
  cases outcome with
  | ok material => cases (settle_slot_ok held material).symm.trans pending
  | error fault => cases (settle_slot_error held fault).symm.trans pending

/-- Whoever looks at the attempt in the slot just after somebody else has seen its end gets this
end, and the states after both looks are the same. -/
theorem step_resume_second {caller number : Nat} {waiter : Waiter} {attempt : Attempt}
    {outcome : Outcome} (held : state.slot = .pending number)
    (found : state.attempts[number]? = some attempt)
    (seen : attempt.look config state.now = some outcome)
    (waits : state.waiter? caller = some waiter) (its : waiter.attempt = number) :
    (state.settle number outcome).step config transport (.resume caller) =
      state.step config transport (.resume caller) := by
  subst its
  have written := getElem?_settle found outcome
  have still : (state.settle waiter.attempt outcome).waiter? caller = some waiter := by
    rw [waiter?, settle_waiting]
    exact waits
  have again := settle_of_known written rfl (slot_settle_ne_pending held outcome waiter.attempt)
  rw [step_resume still written rfl, again, settle_now, step_resume waits found seen]

/-- Whoever looks at an earlier attempt gets its end and is gone, whether or not the end of the
attempt in the slot is written down. -/
theorem step_resume_earlier (config : Config) (transport : Transport)
    {faults : List HandshakeFault} (ledger : Ledger state faults) {caller number : Nat}
    {waiter : Waiter} {attempt : Attempt}
    (held : state.slot = .pending number) (outcome : Outcome)
    (waits : state.waiter? caller = some waiter) (other : number ≠ waiter.attempt)
    (found : state.attempts[waiter.attempt]? = some attempt) :
    ∃ answer, state.step config transport (.resume caller) = (state.dismiss caller, some answer) ∧
      (state.settle number outcome).step config transport (.resume caller) =
        ((state.settle number outcome).dismiss caller, some answer) := by
  have stale : state.slot ≠ .pending waiter.attempt := by
    rw [held]
    exact fun same => other (Slot.pending.inj same)
  obtain ⟨ending, known, stepped⟩ := step_resume_stale config transport ledger waits found stale
  have still : (state.settle number outcome).waiter? caller = some waiter := by
    rw [waiter?, settle_waiting]
    exact waits
  have foundStill :
      (state.settle number outcome).attempts[waiter.attempt]? = some attempt := by
    rw [settle_attempts, List.getElem?_modify, found]
    simp [other]
  have shown : attempt.look config (state.settle number outcome).now = some ending := by
    rw [Attempt.look, known]
  have again :=
    settle_of_known foundStill known (slot_settle_ne_pending held outcome waiter.attempt)
  refine ⟨_, stepped, ?_⟩
  rw [step_resume still foundStill shown, again, settle_now]

end State

/-! ## The two states side by side -/

/-- How the state in which somebody stayed stands to the one that it has left. -/
inductive Shadow (config : Config) (waiter : Waiter) (stayed left : State) : Prop where
  /-- The one who stayed still waits. -/
  | waiting (waits : stayed.waiter? waiter.caller = some waiter)
      (same : stayed.dismiss waiter.caller = left)
  /-- The one who stayed has seen the end of the attempt, and nobody else has. -/
  | ahead (attempt : Attempt) (found : left.attempts[waiter.attempt]? = some attempt)
      (unfinished : attempt.outcome = none) (due : left.now = attempt.dueAt config.limit)
      (same : stayed = left.settle waiter.attempt (attempt.outcomeAt config left.now))
  | level (same : stayed = left)

namespace State

/-- Whether the end of an attempt is known or somebody waits for it. -/
def hasCompany (state : State) (number : Nat) : Bool :=
  (state.ended? number).isSome || state.waiting.any fun waiter => waiter.attempt == number

/-- Whether an event is anything but a call at the due instant of an attempt whose end is not
known. -/
def isCalm (state : State) (config : Config) (number : Nat) : Event → Bool
  | .call _ _ => (state.ended? number).isSome ||
      state.attempts[number]?.all fun attempt => state.now != attempt.dueAt config.limit
  | _ => true

/-- Whether, from a state on, somebody waits for an attempt until its end is known, and a call at
its due instant comes after that. -/
def sustains (config : Config) (transport : Transport) (number : Nat) :
    State → List Event → Bool
  | state, [] => state.hasCompany number
  | state, event :: later => state.hasCompany number && state.isCalm config number event &&
      sustains config transport number (state.step config transport event).1 later

variable {state : State} {number : Nat} {attempt : Attempt}

theorem hasCompany_of_sustains {events : List Event}
    (sustained : sustains config transport number state events = true) :
    state.hasCompany number = true := by
  cases events with
  | nil => exact sustained
  | cons event later =>
    rw [sustains, Bool.and_eq_true, Bool.and_eq_true] at sustained
    exact sustained.1.1

/-- What is sustained throughout some events is sustained throughout the first of them. -/
theorem sustains_of_append {earlier later : List Event}
    (sustained : sustains config transport number state (earlier ++ later) = true) :
    sustains config transport number state earlier = true := by
  induction earlier generalizing state with
  | nil => exact hasCompany_of_sustains sustained
  | cons event rest ih =>
    rw [List.cons_append, sustains, Bool.and_eq_true] at sustained
    rw [sustains, Bool.and_eq_true]
    exact ⟨sustained.1, ih sustained.2⟩

/-- An attempt that has company and no end has somebody who waits for it. -/
theorem exists_companion (company : state.hasCompany number = true)
    (found : state.attempts[number]? = some attempt) (unfinished : attempt.outcome = none) :
    ∃ waiter ∈ state.waiting, waiter.attempt = number := by
  rw [hasCompany, ended?_of_found found, unfinished, Option.isSome_none, Bool.false_or,
    List.any_eq_true] at company
  simpa only [beq_iff_eq] using company

/-- As long as its end is unknown, an attempt that has company is not overdue. -/
theorem le_dueAt_of_company (company : state.hasCompany number = true)
    (prompt : state.Prompt config) (found : state.attempts[number]? = some attempt)
    (unfinished : attempt.outcome = none) : state.now ≤ attempt.dueAt config.limit := by
  obtain ⟨companion, waits, rfl⟩ := exists_companion company found unfinished
  exact (prompt companion waits attempt found).2

/-- A call that is calm does not come at the due instant of an unfinished attempt. -/
theorem ne_dueAt_of_isCalm {caller : Nat} {call : Call}
    (calm : state.isCalm config number (.call caller call) = true)
    (found : state.attempts[number]? = some attempt) (unfinished : attempt.outcome = none) :
    state.now ≠ attempt.dueAt config.limit := by
  simpa [isCalm, ended?_of_found found, unfinished, found] using calm

end State

namespace Shadow

variable {waiter : Waiter} {stayed left : State} {event : Event}

/-- The one who stayed looks at its attempt, or has nothing to look at any more. -/
theorem look (shadow : Shadow config waiter stayed left)
    (invariant : Invariant config transport left) (absent : left.waiter? waiter.caller = none)
    (notLate : ∀ attempt : Attempt, left.attempts[waiter.attempt]? = some attempt →
      attempt.outcome = none → left.now ≤ attempt.dueAt config.limit) :
    Shadow config waiter (stayed.step config transport (.resume waiter.caller)).1 left := by
  cases shadow with
  | level same =>
    subst same
    simp only [State.step, absent]
    exact .level rfl
  | ahead attempt found unfinished due same =>
    subst same
    have gone : (left.settle waiter.attempt (attempt.outcomeAt config left.now)).waiter?
        waiter.caller = none := by
      rw [State.waiter?, State.settle_waiting]
      exact absent
    simp only [State.step, gone]
    exact .ahead attempt found unfinished due rfl
  | waiting waits same =>
    rcases stayed.look_cases config waiter.attempt with blind | ⟨attempt, outcome, found, seen, -⟩
    · rw [State.step_resume_blind waits blind]
      exact .waiting waits same
    · have clock : left.now = stayed.now := by rw [← same]; rfl
      have there : left.attempts[waiter.attempt]? = some attempt := by rw [← same]; exact found
      have settled : (stayed.settle waiter.attempt outcome).dismiss waiter.caller =
          left.settle waiter.attempt outcome := by
        rw [← same, State.settle_dismiss]
      rw [State.step_resume waits found seen, settled]
      cases known : attempt.outcome with
      | none =>
        rw [Attempt.look_of_unfinished known, Option.ite_none_right_eq_some] at seen
        obtain ⟨due, shown⟩ := seen
        rw [← clock] at due shown
        have instant : left.now = attempt.dueAt config.limit :=
          Nat.le_antisymm (notLate attempt there known) due
        exact .ahead attempt there known instant (by rw [Option.some.inj shown])
      | some written =>
        obtain ⟨faults, ledger⟩ := invariant.ledger
        have other : left.slot ≠ .pending waiter.attempt := by
          intro held
          obtain ⟨current, foundCurrent, unfinished⟩ := ledger.unfinished_of_slot held
          rw [there] at foundCurrent
          cases foundCurrent
          rw [known] at unfinished
          cases unfinished
        rw [← clock] at seen
        exact .level (ledger.settle_stale there seen other)

/-- While the one who stayed is ahead, the others catch up by looking themselves; time does not
pass, and there is no call. -/
theorem step_of_ahead {attempt : Attempt} (found : left.attempts[waiter.attempt]? = some attempt)
    (unfinished : attempt.outcome = none) (due : left.now = attempt.dueAt config.limit)
    (invariant : Invariant config transport left)
    (company : left.hasCompany waiter.attempt = true)
    (calm : left.isCalm config waiter.attempt event = true)
    (paced : ∀ span, event = .elapse span → left.waits config span = true) :
    let ahead := left.settle waiter.attempt (attempt.outcomeAt config left.now)
    Shadow config waiter (ahead.step config transport event).1
        (left.step config transport event).1 ∧
      (ahead.step config transport event).2 = (left.step config transport event).2 := by
  intro ahead
  obtain ⟨faults, ledger⟩ := invariant.ledger
  have held := ledger.slot_of_unfinished found unfinished
  have seen : attempt.look config left.now = some (attempt.outcomeAt config left.now) := by
    rw [Attempt.look_of_unfinished unfinished, if_pos (Nat.le_of_eq due.symm)]
  cases event with
  | call caller call =>
    exact absurd due (State.ne_dueAt_of_isCalm calm found unfinished)
  | abandon caller =>
    refine ⟨.ahead attempt found unfinished due ?_, rfl⟩
    exact (left.settle_dismiss caller _ _).symm
  | elapse span =>
    obtain ⟨companion, waits, its⟩ := State.exists_companion company found unfinished
    rcases Nat.eq_zero_or_pos span with rfl | positive
    · exact ⟨.ahead attempt found unfinished due rfl, rfl⟩
    · have bound := State.le_dueAt_of_waits positive (paced span rfl) waits (its ▸ found)
      omega
  | resume caller =>
    cases place : left.waiter? caller with
    | none =>
      have gone : ahead.waiter? caller = none := by
        rw [State.waiter?, State.settle_waiting]
        exact place
      simp only [State.step, place, gone]
      exact ⟨.ahead attempt found unfinished due rfl, trivial⟩
    | some looking =>
      by_cases its : looking.attempt = waiter.attempt
      · have second : ahead.step config transport (.resume caller) =
            left.step config transport (.resume caller) :=
          State.step_resume_second held found seen place its
        exact ⟨.level (congrArg Prod.fst second), congrArg Prod.snd second⟩
      · have begun := invariant.begun looking (State.mem_of_waiter? place)
        obtain ⟨answer, stepped, steppedAhead⟩ :=
          State.step_resume_earlier config transport ledger held
            (attempt.outcomeAt config left.now) place (Ne.symm its) (List.getElem?_eq_getElem begun)
        rw [stepped, steppedAhead]
        refine ⟨.ahead attempt found unfinished due ?_, rfl⟩
        exact (left.settle_dismiss caller _ _).symm

/-- **An event of another keeps the states side by side and brings the same answer.** -/
theorem step (shadow : Shadow config waiter stayed left)
    (invariant : Invariant config transport left)
    (company : left.hasCompany waiter.attempt = true)
    (calm : left.isCalm config waiter.attempt event = true)
    (paced : ∀ span, event = .elapse span → left.waits config span = true)
    (other : event.caller? ≠ some waiter.caller) :
    Shadow config waiter (stayed.step config transport event).1
        (left.step config transport event).1 ∧
      (stayed.step config transport event).2 = (left.step config transport event).2 := by
  cases shadow with
  | waiting waits same =>
    subst same
    rw [stayed.step_dismiss waiter.caller other]
    have unseen : event ≠ .resume waiter.caller := by
      rintro rfl
      exact other rfl
    have loyal : event ≠ .abandon waiter.caller := by
      rintro rfl
      exact other rfl
    exact ⟨.waiting (State.step_waiter? waits unseen loyal).1 rfl, rfl⟩
  | ahead attempt found unfinished due same =>
    subst same
    exact step_of_ahead found unfinished due invariant company calm paced
  | level same =>
    subst same
    exact ⟨.level rfl, rfl⟩

/-- A look of the one who stayed is answered to it alone. -/
theorem answer_of_look (config : Config) (transport : Transport) (stayed : State) (caller : Nat) :
    (stayed.step config transport (.resume caller)).2.toList.filter
      (fun answer => answer.caller != caller) = [] := by
  cases place : stayed.waiter? caller with
  | none =>
    simp only [State.step, place]
    rfl
  | some looking =>
    simp only [State.step, place]
    cases (stayed.resume config looking).2 with
    | none => rfl
    | some result => simp

/-- **The states stay side by side throughout a run, and the others get the same answers.** -/
theorem run (shadow : Shadow config waiter stayed left)
    (invariant : Invariant config transport left) (prompt : left.Prompt config)
    (absent : left.waiter? waiter.caller = none) {kept : List Event}
    (passive : ∀ event ∈ kept, event.caller? = some waiter.caller → event = .resume waiter.caller)
    (timely : State.timely config transport left (Event.without waiter.caller kept) = true)
    (sustained : State.sustains config transport waiter.attempt left
      (Event.without waiter.caller kept) = true) :
    let last := left.run config transport (Event.without waiter.caller kept)
    Shadow config waiter (stayed.run config transport kept).1 last.1 ∧
      (stayed.run config transport kept).2.filter (fun answer => answer.caller != waiter.caller) =
        last.2.filter fun answer => answer.caller != waiter.caller := by
  induction kept generalizing stayed left with
  | nil => exact ⟨shadow, rfl⟩
  | cons event later ih =>
    have passiveLater := fun other member => passive other (List.mem_cons_of_mem event member)
    by_cases mine : event.caller? = some waiter.caller
    · have looks := passive event List.mem_cons_self mine
      have skipped : Event.without waiter.caller (event :: later) =
          Event.without waiter.caller later := by
        rw [Event.without, List.filter_cons_of_neg (by simp [mine])]
        rfl
      rw [skipped] at timely sustained ⊢
      subst looks
      have next : Shadow config waiter (stayed.step config transport (.resume waiter.caller)).1
          left := shadow.look invariant absent fun attempt found unfinished =>
        State.le_dueAt_of_company (State.hasCompany_of_sustains sustained) prompt found unfinished
      obtain ⟨beside, same⟩ := ih next invariant prompt absent passiveLater timely sustained
      refine ⟨beside, ?_⟩
      rw [State.run_cons, List.filter_append, answer_of_look, List.nil_append]
      exact same
    · have taken : Event.without waiter.caller (event :: later) =
          event :: Event.without waiter.caller later := by
        rw [Event.without, List.filter_cons_of_pos (by simpa using mine)]
        rfl
      rw [taken] at timely sustained ⊢
      obtain ⟨paced, timelyLater⟩ := State.timely_cons.mp timely
      rw [State.sustains, Bool.and_eq_true, Bool.and_eq_true] at sustained
      obtain ⟨⟨company, calm⟩, sustainedLater⟩ := sustained
      obtain ⟨next, sameAnswer⟩ := shadow.step invariant company calm paced mine
      obtain ⟨beside, same⟩ := ih next (invariant.step event)
        (State.prompt_step invariant prompt paced) (State.waiter?_step_of_absent absent mine)
        passiveLater timelyLater sustainedLater
      refine ⟨beside, ?_⟩
      simp only [State.run_cons, List.filter_append, sameAnswer, same]

/-- Side by side, the clocks and the exchanges agree, and outside the due instant everything does
but for the one who stayed. -/
theorem agree (shadow : Shadow config waiter stayed left)
    (absent : left.waiter? waiter.caller = none) :
    stayed.now = left.now ∧
      stayed.attempts.map Attempt.begun = left.attempts.map Attempt.begun ∧
      ∀ attempt : Attempt, left.attempts[waiter.attempt]? = some attempt →
        attempt.outcome.isSome ∨ left.now ≠ attempt.dueAt config.limit →
        stayed.slot = left.slot ∧ stayed.dismiss waiter.caller = left := by
  cases shadow with
  | waiting waits same =>
    subst same
    exact ⟨rfl, rfl, fun _ _ _ => ⟨rfl, rfl⟩⟩
  | ahead attempt found unfinished due same =>
    subst same
    refine ⟨State.settle_now left _ _, left.map_begun_settle _ _, ?_⟩
    intro other there apart
    rw [found] at there
    cases there
    rw [unfinished] at apart
    rcases apart with ended | apart
    · cases ended
    · exact absurd due apart
  | level same =>
    subst same
    exact ⟨rfl, rfl, fun _ _ _ => ⟨rfl, State.dismiss_of_absent absent⟩⟩

end Shadow

namespace State

/-! ## The main result -/

/-- In a run of others a caller does not begin to wait. -/
theorem waiter?_run_of_absent {state : State} {caller : Nat}
    (absent : state.waiter? caller = none) (kept : List Event) :
    (state.run config transport (Event.without caller kept)).1.waiter? caller = none := by
  have others : ∀ event ∈ Event.without caller kept, event.caller? ≠ some caller := by
    intro event member
    simpa using (List.mem_filter.mp member).2
  generalize Event.without caller kept = events at others ⊢
  induction events generalizing state with
  | nil => exact absent
  | cons event later ih =>
    rw [run_cons]
    refine ih ?_ fun other member => others other (List.mem_cons_of_mem event member)
    rw [waiter?_step_of_other (others event List.mem_cons_self), absent]

/-- **A departure goes unnoticed.**  After some events a caller waits for an attempt.  In one run
it leaves, in the other it stays and does nothing but look on; all other events are the same.  Let
the run in which it leaves be timely, let somebody else wait for the attempt until its end is known,
and let no call come at the due instant before that.  Then, at every stage of the two runs,

* all others have got the same answers at the same instants;
* the same exchanges have been made at the same instants;
* the slots agree, unless this is the due instant and the end of the attempt is not known yet; so
  do the whole states, except that the one who stayed may still wait. -/
theorem departure_unnoticed (config : Config) (transport : Transport) (start : Nat)
    (before kept : List Event) (caller : Nat) (waiter : Waiter)
    (waits : ((fresh start).run config transport before).1.waiter? caller = some waiter)
    (passive : ∀ event ∈ kept, event.caller? = some caller → event = .resume caller)
    (timely : timely config transport (fresh start)
      (before ++ .abandon caller :: Event.without caller kept) = true)
    (sustained : sustains config transport waiter.attempt
      (((fresh start).run config transport before).1.dismiss caller)
      (Event.without caller kept) = true) :
    ∀ early, early <+: kept →
      let stayed := (fresh start).run config transport (before ++ early)
      let left := (fresh start).run config transport
        (before ++ .abandon caller :: Event.without caller early)
      stayed.2.filter (fun answer => answer.caller != caller) =
          left.2.filter (fun answer => answer.caller != caller) ∧
        stayed.1.now = left.1.now ∧
        stayed.1.attempts.map Attempt.begun = left.1.attempts.map Attempt.begun ∧
        ∀ attempt : Attempt, left.1.attempts[waiter.attempt]? = some attempt →
          attempt.outcome.isSome ∨ left.1.now ≠ attempt.dueAt config.limit →
          stayed.1.slot = left.1.slot ∧ stayed.1.dismiss caller = left.1 := by
  rintro early ⟨late, rfl⟩ stayed left
  cases caller_of_waiter? waits
  rw [Event.without, List.filter_append] at timely sustained
  obtain ⟨timelyBefore, timelyAfter⟩ := timely_append.mp timely
  obtain ⟨timelyEarly, -⟩ := timely_append.mp (timely_cons.mp timelyAfter).2
  have sustainedEarly := sustains_of_append sustained
  have passiveEarly : ∀ event ∈ early, event.caller? = some waiter.caller →
      event = .resume waiter.caller :=
    fun event member => passive event (List.mem_append_left late member)
  have invariant : Invariant config transport ((fresh start).run config transport before).1 :=
    .run start before
  have prompt : (((fresh start).run config transport before).1.dismiss
      waiter.caller).Prompt config := fun other member =>
    run_prompt (.fresh start) (prompt_fresh start) timelyBefore other (List.mem_filter.mp member).1
  have absent := ((fresh start).run config transport before).1.waiter?_dismiss_self waiter.caller
  have shadow : Shadow config waiter ((fresh start).run config transport before).1
      (((fresh start).run config transport before).1.dismiss waiter.caller) := .waiting waits rfl
  obtain ⟨beside, same⟩ := shadow.run (invariant.step (.abandon waiter.caller)) prompt absent
    passiveEarly timelyEarly sustainedEarly
  have stayedRun : stayed = _ := run_append (fresh start) before early
  have leftRun : left = _ := run_append (fresh start) before _
  rw [stayedRun, leftRun, run_cons]
  refine ⟨?_, beside.agree (waiter?_run_of_absent absent early)⟩
  simp only [List.filter_append, same]
  rfl

/-- The caller that began a refused exchange leaves it, or stays and is the first to see the
refusal; the other caller gets it either way, and its second attempt is under way in both runs. -/
theorem departure_unnoticed_of_refusal :
    let config : Config := ⟨KeyPair.withExponent Group.legacy.parameters 5, 10⟩
    let transport : Transport := fun number _ =>
      match number with
      | 0 => ⟨some 5, .ok (.rejected "closed")⟩
      | _ => ⟨none, .error (.transport "lost")⟩
    let before : List Event := [.call 0 .ensure, .elapse 2, .call 1 .ensure, .elapse 1]
    let stayed := (fresh 0).run config transport
      (before ++ [.elapse 2, .resume 0, .resume 1, .call 1 .ensure, .elapse 1])
    let left := (fresh 0).run config transport
      (before ++ .abandon 0 :: [.elapse 2, .resume 1, .call 1 .ensure, .elapse 1])
    stayed.2.length = 2 ∧
      left.2 = [⟨1, .ensure, 2, 5, .error (.handshake (.rejected "closed"))⟩] ∧
      stayed.2.filter (fun answer => answer.caller != 0) =
        left.2.filter (fun answer => answer.caller != 0) ∧
      stayed.1.slot = .pending 1 ∧ left.1.slot = .pending 1 ∧ stayed.1.dismiss 0 = left.1 := by
  intro config transport before stayed left
  obtain ⟨answers, -, -, states⟩ := departure_unnoticed config transport 0 before
    [.elapse 2, .resume 0, .resume 1, .call 1 .ensure, .elapse 1] 0 ⟨0, .ensure, .presence, 0, 0⟩
    rfl (by simp [Event.caller?]) (by decide +kernel) (by decide +kernel) _ List.prefix_rfl
  obtain ⟨-, same⟩ := states _ rfl (.inl rfl)
  exact ⟨rfl, rfl, answers, rfl, rfl, same⟩

end State

end SealedCredentials.Channel
