import SealedCredentials.Channel.Schedule
import SealedCredentials.Proofs.Channel.TimeBound

/-!
# The turns of tasks

When a task is polled its caller has a turn: any number of events of its own, none of which takes
time (`Turn`).  A turn leaves the others where they are.  Nobody else begins to wait in it, and an
attempt that was not due before is not due after it.

Whoever waits at the end of its own turn has just looked, and has seen that its attempt is not due
(`Task.Settled`).  So it is after every poll of a task (`Task.poll_turn`).
-/

set_option autoImplicit false

namespace SealedCredentials.Channel

variable {config : Config} {transport : Transport}

/-! ## Timely runs between states -/

/-- A state is reached by a timely run. -/
def TimelyRun (config : Config) (transport : Transport) (state next : State) : Prop :=
  ∃ events, State.timely config transport state events = true ∧
    (state.run config transport events).1 = next

namespace TimelyRun

variable {state middle next : State}

theorem refl (state : State) : TimelyRun config transport state state := ⟨[], rfl, rfl⟩

theorem trans (former : TimelyRun config transport state middle)
    (latter : TimelyRun config transport middle next) : TimelyRun config transport state next := by
  obtain ⟨earlier, timely, rfl⟩ := former
  obtain ⟨later, timelyLater, rfl⟩ := latter
  refine ⟨earlier ++ later, State.timely_append.mpr ⟨timely, timelyLater⟩, ?_⟩
  rw [State.run_append]

theorem single {event : Event} (paced : ∀ span, event = .elapse span → state.waits config span) :
    TimelyRun config transport state (state.step config transport event).1 :=
  ⟨[event], State.timely_cons.mpr ⟨paced, rfl⟩, rfl⟩

theorem moves (reached : TimelyRun config transport state next) :
    Moves config transport state next := by
  obtain ⟨events, -, rfl⟩ := reached
  exact state.run_moves events

end TimelyRun

/-! ## One waiter for each caller -/

namespace State

variable {state : State}

theorem waiter?_eq_none_iff {caller : Nat} :
    state.waiter? caller = none ↔ ∀ waiter ∈ state.waiting, waiter.caller ≠ caller := by
  unfold waiter?
  rw [List.find?_eq_none]
  simp only [beq_iff_eq, ne_eq]

/-- Whoever waits can be found by its caller. -/
def Distinct (state : State) : Prop :=
  ∀ waiter ∈ state.waiting, state.waiter? waiter.caller = some waiter

theorem distinct_of_waiting {next : State} (distinct : state.Distinct)
    (same : next.waiting = state.waiting) : next.Distinct := by
  unfold Distinct waiter?
  rw [same]
  exact distinct

theorem distinct_dismiss (distinct : state.Distinct) (caller : Nat) :
    (state.dismiss caller).Distinct := by
  intro waiter member
  obtain ⟨before, other⟩ := List.mem_filter.mp member
  rw [waiter?_dismiss (Ne.symm (bne_iff_ne.mp other))]
  exact distinct waiter before

theorem distinct_join (distinct : state.Distinct) {waiter : Waiter}
    (free : state.waiter? waiter.caller = none) : (state.join config waiter).1.Distinct := by
  rcases state.join_cases config waiter with same | ⟨attempt, outcome, -, -, same⟩
  · rw [same]
    intro member waits
    rcases List.mem_append.mp waits with before | last
    · exact waiter?_of_append (distinct member before) rfl
    · rw [List.mem_singleton.mp last]
      exact waiter?_append_self free
  · rw [same]
    exact distinct_of_waiting distinct (settle_waiting state waiter.attempt outcome)

theorem distinct_step (distinct : state.Distinct) (event : Event) :
    (state.step config transport event).1.Distinct := by
  cases event with
  | call caller call =>
    change (state.call config transport caller call).1.Distinct
    cases free : state.waiter? caller with
    | some waiter =>
      rw [State.call, free, Option.isSome_some, if_pos rfl]
      exact distinct
    | none =>
      rcases state.call_same_or_join config transport caller call with same |
        ⟨purpose, number, seated, -, -, origin, same⟩
      · rw [same]
        exact distinct
      · rw [same]
        have callers := (seated_kept origin).2
        refine distinct_join (distinct_of_waiting distinct callers) ?_
        rw [waiter?, callers]
        exact free
  | resume caller =>
    cases place : state.waiter? caller with
    | none =>
      simp only [step, place]
      exact distinct
    | some waiter =>
      simp only [step, place]
      rcases state.resume_cases config waiter with same | ⟨attempt, outcome, -, -, same⟩
      · rw [same]
        exact distinct
      · rw [same]
        exact distinct_dismiss
          (distinct_of_waiting distinct (settle_waiting state waiter.attempt outcome)) waiter.caller
  | abandon caller => exact distinct_dismiss distinct caller
  | elapse span => exact distinct

end State

/-- A run keeps callers apart. -/
theorem TimelyRun.distinct {state next : State} (reached : TimelyRun config transport state next)
    (before : state.Distinct) : next.Distinct := by
  obtain ⟨events, -, rfl⟩ := reached
  induction events generalizing state with
  | nil => exact before
  | cons event later ih =>
    rw [State.run_cons]
    exact ih (State.distinct_step before event)

/-! ## Turns -/

/-- Whose event it is, unless it is time that passes. -/
def Event.caller? : Event → Option Nat
  | .call caller _ => some caller
  | .resume caller => some caller
  | .abandon caller => some caller
  | .elapse _ => none

/-- Any number of events of one caller. -/
abbrev Turn (config : Config) (transport : Transport) (caller : Nat) : State → State → Prop :=
  Relation.ReflTransGen fun state next =>
    ∃ event : Event, event.caller? = some caller ∧ (state.step config transport event).1 = next

/-- The attempt of a waiter is not due. -/
def Waiter.Early (config : Config) (state : State) (waiter : Waiter) : Prop :=
  ∀ attempt : Attempt, state.attempts[waiter.attempt]? = some attempt →
    state.now < attempt.dueAt config.limit

/-- A genuine attempt that is not due has not ended. -/
theorem Attempt.Genuine.unfinished_of_early {attempt : Attempt} {now number : Nat}
    (genuine : attempt.Genuine config transport now number)
    (early : now < attempt.dueAt config.limit) : attempt.outcome = none := by
  cases ended : attempt.outcome with
  | none => rfl
  | some outcome =>
    have due : attempt.dueAt config.limit ≤ now :=
      dueAt_le_iff.mpr ((genuine.explained outcome ended).imp And.left And.left)
    omega

theorem Event.ne_elapse {event : Event} {caller : Nat} (mine : event.caller? = some caller)
    (span : Nat) : event ≠ .elapse span := by
  rintro rfl
  cases mine

namespace Turn

variable {caller : Nat} {state next : State}

/-- A turn that begins with an event. -/
theorem head (event : Event) (mine : event.caller? = some caller)
    (rest : Turn config transport caller (state.step config transport event).1 next) :
    Turn config transport caller state next :=
  Relation.ReflTransGen.head ⟨event, mine, rfl⟩ rest

/-- A turn is timely, since it takes no time. -/
theorem timelyRun (turn : Turn config transport caller state next) :
    TimelyRun config transport state next := by
  induction turn with
  | refl => exact .refl state
  | tail _ last ih =>
    obtain ⟨event, mine, rfl⟩ := last
    exact ih.trans (.single fun span same => absurd same (Event.ne_elapse mine span))

theorem now_eq (turn : Turn config transport caller state next) : next.now = state.now := by
  induction turn with
  | refl => rfl
  | tail _ last ih =>
    obtain ⟨event, mine, rfl⟩ := last
    rw [State.now_step (Event.ne_elapse mine), ih]

/-- In the turn of one caller no other one begins to wait. -/
theorem mem_waiting (turn : Turn config transport caller state next) {waiter : Waiter}
    (waits : waiter ∈ next.waiting) (other : waiter.caller ≠ caller) : waiter ∈ state.waiting := by
  induction turn with
  | refl => exact waits
  | tail _ last ih =>
    obtain ⟨event, mine, rfl⟩ := last
    rcases State.mem_waiting_step waits with before | ⟨rfl, -⟩
    · exact ih before
    · exact absurd (Option.some.inj mine) other

/-- A turn makes no attempt due. -/
theorem early (turn : Turn config transport caller state next)
    (invariant : Invariant config transport state) {waiter : Waiter}
    (before : waiter ∈ state.waiting) (early : waiter.Early config state) :
    waiter.Early config next := by
  intro attempt found
  have there := List.getElem?_eq_getElem (invariant.begun waiter before)
  have same := turn.timelyRun.moves.begun_eq there found
  rw [turn.now_eq, Attempt.dueAt_of_begun same]
  exact early _ there

end Turn

/-! ## The turn of a task -/

namespace State

variable {state : State}

/-- A caller with an answer does not wait. -/
theorem waiter?_of_answered_call {caller : Nat} {call : Call} {answer : Answer}
    (free : state.waiter? caller = none)
    (answered : (state.step config transport (.call caller call)).2 = some answer) :
    (state.step config transport (.call caller call)).1.waiter? caller = none := by
  change (state.call config transport caller call).1.waiter? caller = none
  simp only [step, Option.map_eq_some_iff] at answered
  obtain ⟨result, given, -⟩ := answered
  rcases state.call_same_or_join config transport caller call with same |
    ⟨purpose, number, seated, -, -, origin, same⟩
  · rw [same]
    exact free
  · rw [same] at given ⊢
    rcases seated.join_cases config ⟨caller, call, purpose, state.now, number⟩ with
      waits | ⟨attempt, outcome, -, -, seen⟩
    · rw [waits] at given
      cases given
    · rw [seen, waiter?, settle_waiting, (seated_kept origin).2]
      exact free

/-- Nobody is left under the name of a caller that was dismissed. -/
theorem waiter?_dismiss_self (state : State) (caller : Nat) :
    (state.dismiss caller).waiter? caller = none := by
  rw [waiter?_eq_none_iff]
  intro waiter member
  exact bne_iff_ne.mp (List.mem_filter.mp member).2

/-- Whoever looks again gets an answer and waits no more, or has seen that its attempt is not
due. -/
theorem step_resume_answered_or_early (config : Config) (transport : Transport) (state : State)
    (caller : Nat) :
    (∃ answer, (state.step config transport (.resume caller)).2 = some answer ∧
        (state.step config transport (.resume caller)).1.waiter? caller = none) ∨
      state.step config transport (.resume caller) = (state, none) ∧
        ∀ waiter, state.waiter? caller = some waiter → waiter.Early config state := by
  cases waits : state.waiter? caller with
  | none =>
    refine .inr ⟨by simp only [step, waits], ?_⟩
    intro waiter impossible
    cases impossible
  | some waiter =>
    rcases state.look_cases config waiter.attempt with blind | ⟨attempt, outcome, found, seen, -⟩
    · refine .inr ⟨step_resume_blind waits blind, ?_⟩
      rintro other same attempt found
      cases same
      exact lt_dueAt_of_blind blind found
    · rw [step_resume waits found seen]
      exact .inl ⟨_, rfl, waiter?_dismiss_self _ caller⟩

end State

namespace Task

/-- A task waits for an attempt. -/
def Awaits (task : Task) : Prop := ∃ deadline, task.hold = .waiting deadline

/-- After the turn of a task: if its caller waits, the task knows, and the attempt is not due. -/
def Settled (config : Config) (caller : Nat) (state : State) (task : Task) : Prop :=
  ∀ waiter ∈ state.waiting, waiter.caller = caller → task.Awaits ∧ waiter.Early config state

variable {caller : Nat} {state : State}

theorem settled_of_free (free : state.waiter? caller = none) (task : Task) :
    Settled config caller state task := by
  intro waiter member mine
  exact absurd mine (State.waiter?_eq_none_iff.mp free waiter member)

/-- Whoever waits after its call has seen that the attempt is not due. -/
theorem settled_of_call (free : state.waiter? caller = none) (call : Call) {task : Task}
    (awaits : task.Awaits) :
    Settled config caller (state.step config transport (.call caller call)).1 task := by
  intro waiter member mine
  refine ⟨awaits, ?_⟩
  rcases State.mem_waiting_call_cases member with before | ⟨-, early⟩
  · exact absurd mine (State.waiter?_eq_none_iff.mp free waiter before)
  · intro attempt found
    rw [State.now_step (by simp)]
    exact early attempt found

/-- A call that is answered at once leads on to the next action. -/
theorem proceed_call_of_answered {call : Call} {answer : Answer} (later : List Action)
    (answered : (state.step config transport (.call caller call)).2 = some answer) :
    let rest := proceed config transport caller later
      (state.step config transport (.call caller call)).1
    proceed config transport caller (.call call :: later) state =
      (rest.1, rest.2.after (.answered answer.result)) := by
  rcases stepped : state.step config transport (.call caller call) with ⟨next, given⟩
  rw [stepped] at answered
  cases answered
  simp only [proceed, stepped]

/-- A call that is not answered holds the task up. -/
theorem proceed_call_of_unanswered {call : Call} (later : List Action)
    (unanswered : (state.step config transport (.call caller call)).2 = none) :
    proceed config transport caller (.call call :: later) state =
      ((state.step config transport (.call caller call)).1, ⟨.waiting none, later, []⟩) := by
  rcases stepped : state.step config transport (.call caller call) with ⟨next, given⟩
  rw [stepped] at unanswered
  cases unanswered
  simp only [proceed, stepped]

/-- A task with patience goes on as one without, if its call is answered at once. -/
theorem proceed_callFor_of_answered {call : Call} {answer : Answer} (span : Nat)
    (later : List Action)
    (answered : (state.step config transport (.call caller call)).2 = some answer) :
    proceed config transport caller (.callFor span call :: later) state =
      proceed config transport caller (.call call :: later) state := by
  rcases stepped : state.step config transport (.call caller call) with ⟨next, given⟩
  rw [stepped] at answered
  cases answered
  simp only [proceed, stepped]

/-- A task without any patience abandons a call that is not answered, and one with some waits. -/
theorem proceed_callFor_of_unanswered {call : Call} (span : Nat) (later : List Action)
    (unanswered : (state.step config transport (.call caller call)).2 = none) :
    let waiting := (state.step config transport (.call caller call)).1
    let rest := proceed config transport caller later (waiting.dismiss caller)
    proceed config transport caller (.callFor span call :: later) state =
      if span = 0 then (rest.1, rest.2.after .abandoned)
      else (waiting, ⟨.waiting (some (waiting.now + span)), later, []⟩) := by
  rcases stepped : state.step config transport (.call caller call) with ⟨next, given⟩
  rw [stepped] at unanswered
  cases unanswered
  simp only [proceed, stepped]
  rfl

/-- A task carries out actions in a turn of its caller. -/
theorem proceed_turn (config : Config) (transport : Transport) (actions : List Action)
    (free : state.waiter? caller = none) :
    let proceeded := proceed config transport caller actions state
    Turn config transport caller state proceeded.1 ∧
      Settled config caller proceeded.1 proceeded.2 := by
  induction actions generalizing state with
  | nil => exact ⟨.refl, settled_of_free free _⟩
  | cons action later ih =>
    have called (call : Call) :
        let proceeded := proceed config transport caller (.call call :: later) state
        Turn config transport caller state proceeded.1 ∧
          Settled config caller proceeded.1 proceeded.2 := by
      cases answered : (state.step config transport (.call caller call)).2 with
      | some answer =>
        rw [proceed_call_of_answered later answered]
        obtain ⟨turn, settled⟩ := ih (State.waiter?_of_answered_call free answered)
        exact ⟨.head (.call caller call) rfl turn, settled⟩
      | none =>
        rw [proceed_call_of_unanswered later answered]
        exact ⟨.head (.call caller call) rfl .refl, settled_of_call free call ⟨_, rfl⟩⟩
    cases action with
    | sleep span =>
      by_cases instant : span = 0
      · simp only [proceed, instant, if_true]
        exact ih free
      · simp only [proceed, instant, if_false]
        exact ⟨.refl, settled_of_free free _⟩
    | call call => exact called call
    | callFor span call =>
      cases answered : (state.step config transport (.call caller call)).2 with
      | some answer =>
        rw [proceed_callFor_of_answered span later answered]
        exact called call
      | none =>
        rw [proceed_callFor_of_unanswered span later answered]
        by_cases impatient : span = 0
        · rw [if_pos impatient]
          obtain ⟨turn, settled⟩ := ih (State.waiter?_dismiss_self _ caller)
          exact ⟨.head (.call caller call) rfl (.head (.abandon caller) rfl turn), settled⟩
        · rw [if_neg impatient]
          exact ⟨.head (.call caller call) rfl .refl, settled_of_call free call ⟨_, rfl⟩⟩

/-- A task that goes on has its turn. -/
theorem goOn_turn (config : Config) (transport : Transport) (task : Task)
    (report : Option Report) (free : state.waiter? caller = none) :
    let gone := task.goOn config transport caller report state
    Turn config transport caller state gone.1 ∧ Settled config caller gone.1 gone.2 :=
  proceed_turn config transport task.todo free

/-- **A poll is a turn of the task's caller.** -/
theorem poll_turn (config : Config) (transport : Transport) (task : Task)
    (distinct : state.Distinct)
    (free : ¬ task.Awaits → state.waiter? caller = none) :
    let polled := task.poll config transport caller state
    Turn config transport caller state polled.1 ∧ Settled config caller polled.1 polled.2 := by
  cases held : task.hold with
  | free =>
    have idle := free (by rintro ⟨deadline, waits⟩; rw [held] at waits; cases waits)
    simp only [poll, held]
    exact goOn_turn config transport task none idle
  | asleep wakeAt =>
    have idle := free (by rintro ⟨deadline, waits⟩; rw [held] at waits; cases waits)
    simp only [poll, held]
    split
    · exact goOn_turn config transport task _ idle
    · exact ⟨.refl, settled_of_free idle task⟩
  | waiting deadline =>
    rcases stepped : state.step config transport (.resume caller) with ⟨next, given⟩
    rcases state.step_resume_answered_or_early config transport caller with
      ⟨answer, answered, gone⟩ | ⟨same, early⟩
    · rw [stepped] at answered gone
      cases answered
      simp only [poll, held, stepped]
      obtain ⟨turn, settled⟩ := goOn_turn config transport task
        (some (.answered answer.result)) gone
      exact ⟨.head (.resume caller) rfl (stepped ▸ turn), settled⟩
    · rw [stepped] at same
      cases same
      simp only [poll, held, stepped]
      split
      · obtain ⟨turn, settled⟩ := goOn_turn config transport task (some .abandoned)
          (state.waiter?_dismiss_self caller)
        exact ⟨.head (.abandon caller) rfl turn, settled⟩
      · refine ⟨.refl, ?_⟩
        rintro waiter member rfl
        exact ⟨⟨deadline, held⟩, early waiter (distinct waiter member)⟩

end Task

end SealedCredentials.Channel
