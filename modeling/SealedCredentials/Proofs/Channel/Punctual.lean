import SealedCredentials.Proofs.Channel.Turns

/-!
# Tasks look in time

What is known about timely runs holds of tasks in virtual time, since these make no other runs
(`Schedule.run_timelyRun`).  At every instant each task has its turn.  After the last turn whoever
waits has seen that its attempt is not due, and belongs to a task that waits.  So time, which
passes to the earliest due instant of these tasks, passes over none.
-/

set_option autoImplicit false

namespace SealedCredentials.Channel

variable {config : Config} {transport : Transport}

namespace Schedule

variable {state : State}

/-! ## An instant -/

/-- The task of a caller waits, where the tasks are numbered from a base on. -/
def Awaited (base : Nat) (tasks : List Task) (caller : Nat) : Prop :=
  ∃ (place : Nat) (task : Task),
    caller = base + place ∧ tasks[place]? = some task ∧ task.Awaits

theorem awaited_head {base : Nat} {task : Task} (awaits : task.Awaits) (later : List Task) :
    Awaited base (task :: later) base :=
  ⟨0, task, rfl, rfl, awaits⟩

theorem awaited_cons_iff {base caller : Nat} {task : Task} {later : List Task}
    (other : caller ≠ base) :
    Awaited base (task :: later) caller ↔ Awaited (base + 1) later caller := by
  constructor
  · rintro ⟨place, found, same, there, awaits⟩
    cases place with
    | zero => exact absurd same other
    | succ place => exact ⟨place, found, by omega, there, awaits⟩
  · rintro ⟨place, found, same, there, awaits⟩
    exact ⟨place + 1, found, by omega, there, awaits⟩

/-- **Once all tasks were polled, whoever waits belongs to a task that waits, and its attempt is
not due.**  The tasks before the base were polled already. -/
theorem pollAll_timelyRun (config : Config) (transport : Transport) {base : Nat}
    {tasks : List Task} (invariant : Invariant config transport state) (distinct : state.Distinct)
    (attended : ∀ waiter ∈ state.waiting,
      waiter.caller < base ∧ waiter.Early config state ∨ Awaited base tasks waiter.caller) :
    let polled := pollAll config transport base tasks state
    TimelyRun config transport state polled.1 ∧
      ∀ waiter ∈ polled.1.waiting, waiter.Early config polled.1 ∧
        (waiter.caller < base ∧ waiter ∈ state.waiting ∨
          Awaited base polled.2 waiter.caller) := by
  induction tasks generalizing base state with
  | nil =>
    refine ⟨.refl state, ?_⟩
    intro waiter member
    rcases attended waiter member with ⟨before, early⟩ | ⟨place, task, -, nowhere, -⟩
    · exact ⟨early, .inl ⟨before, member⟩⟩
    · cases nowhere
  | cons task later ih =>
    have free : ¬ task.Awaits → state.waiter? base = none := by
      intro idle
      rw [State.waiter?_eq_none_iff]
      rintro waiter member rfl
      rcases attended waiter member with ⟨before, -⟩ | ⟨place, found, same, there, awaits⟩
      · exact Nat.lt_irrefl _ before
      · obtain rfl : place = 0 := by omega
        cases there
        exact idle awaits
    obtain ⟨turn, settled⟩ := Task.poll_turn config transport task distinct free
    have invariantNext := invariant.moves turn.timelyRun.moves
    have distinctNext := turn.timelyRun.distinct distinct
    have attendedNext : ∀ waiter ∈ (task.poll config transport base state).1.waiting,
        waiter.caller < base + 1 ∧
            waiter.Early config (task.poll config transport base state).1 ∨
          Awaited (base + 1) later waiter.caller := by
      intro waiter member
      by_cases mine : waiter.caller = base
      · exact .inl ⟨by omega, (settled waiter member mine).2⟩
      · have before := turn.mem_waiting member mine
        rcases attended waiter before with ⟨polled, early⟩ | awaited
        · exact .inl ⟨by omega, turn.early invariant before early⟩
        · exact .inr ((awaited_cons_iff mine).mp awaited)
    obtain ⟨reached, rest⟩ := ih invariantNext distinctNext attendedNext
    refine ⟨turn.timelyRun.trans reached, ?_⟩
    intro waiter member
    obtain ⟨early, whose⟩ := rest waiter member
    refine ⟨early, ?_⟩
    by_cases mine : waiter.caller = base
    · rcases whose with ⟨-, before⟩ | ⟨place, found, same, -⟩
      · right
        rw [mine]
        exact awaited_head (settled waiter before mine).1 _
      · omega
    · rcases whose with ⟨polled, before⟩ | awaited
      · exact .inl ⟨by omega, turn.mem_waiting before mine⟩
      · exact .inr ((awaited_cons_iff mine).mpr awaited)

/-! ## From instant to instant -/

/-- The next instant is no later than the due one of a task that waits. -/
theorem nextInstant_le_dueAt {tasks : List Task} {instant : Nat}
    (next : nextInstant config tasks state = some instant) (distinct : state.Distinct)
    {waiter : Waiter} (member : waiter ∈ state.waiting)
    (awaited : Awaited 0 tasks waiter.caller) {attempt : Attempt}
    (found : state.attempts[waiter.attempt]? = some attempt) :
    instant ≤ attempt.dueAt config.limit := by
  obtain ⟨place, task, same, there, deadline, held⟩ := awaited
  rw [Nat.zero_add] at same
  have due : state.dueAt? config place = some (attempt.dueAt config.limit) := by
    rw [← same, State.dueAt?, distinct waiter member, Option.bind_eq_bind, Option.bind_some, found]
    rfl
  have own : ∃ mine, task.nextInstant config place state = some mine ∧
      mine ≤ attempt.dueAt config.limit := by
    rw [Task.nextInstant, held]
    simp only [due]
    cases deadline with
    | none => exact ⟨_, rfl, Nat.le_refl _⟩
    | some patience => exact ⟨_, rfl, Nat.min_le_left _ _⟩
  obtain ⟨mine, shown, early⟩ := own
  obtain ⟨-, least⟩ := List.min?_eq_some_iff.mp next
  refine Nat.le_trans (least mine ?_) early
  rw [List.mem_filterMap]
  exact ⟨(task, place), List.mk_mem_zipIdx_iff_getElem?.mpr there, shown⟩

/-- Time may pass as long as no attempt of a waiter comes due before the end of it. -/
theorem waits_of_le {span : Nat} (invariant : Invariant config transport state)
    (early : ∀ waiter ∈ state.waiting, waiter.Early config state)
    (least : ∀ waiter ∈ state.waiting, ∀ attempt : Attempt,
      state.attempts[waiter.attempt]? = some attempt →
        state.now + span ≤ attempt.dueAt config.limit) : state.waits config span = true := by
  unfold State.waits
  rw [Bool.or_eq_true, List.all_eq_true]
  right
  intro waiter member
  have there := List.getElem?_eq_getElem (invariant.begun waiter member)
  have unfinished := (invariant.genuine _ _ there).unfinished_of_early (early waiter member _ there)
  rw [there]
  simp only [unfinished, Option.isNone_none, Bool.true_and, decide_eq_true_eq]
  exact least waiter member _ there

/-- **Tasks advance by timely runs.** -/
theorem advance_timelyRun (config : Config) (transport : Transport) (instants : Nat)
    {tasks : List Task} (invariant : Invariant config transport state) (distinct : state.Distinct)
    (attended : ∀ waiter ∈ state.waiting, Awaited 0 tasks waiter.caller) :
    TimelyRun config transport state (advance config transport instants tasks state).1 := by
  induction instants generalizing state tasks with
  | zero => exact .refl state
  | succ instants ih =>
    obtain ⟨reached, rest⟩ := pollAll_timelyRun config transport invariant distinct
      fun waiter member => .inr (attended waiter member)
    have early : ∀ waiter ∈ (pollAll config transport 0 tasks state).1.waiting,
        waiter.Early config (pollAll config transport 0 tasks state).1 :=
      fun waiter member => (rest waiter member).1
    have awaited : ∀ waiter ∈ (pollAll config transport 0 tasks state).1.waiting,
        Awaited 0 (pollAll config transport 0 tasks state).2 waiter.caller :=
      fun waiter member => (rest waiter member).2.resolve_left fun before => by omega
    rw [advance]
    cases next : nextInstant config (pollAll config transport 0 tasks state).2
        (pollAll config transport 0 tasks state).1 with
    | none =>
      simp only [next]
      exact reached
    | some instant =>
      simp only [next]
      have distinctNext := reached.distinct distinct
      have paced := waits_of_le (invariant.moves reached.moves) early
        fun waiter member attempt found => by
          have least := nextInstant_le_dueAt next distinctNext member (awaited waiter member) found
          have before := early waiter member attempt found
          change _ + (instant - (pollAll config transport 0 tasks state).1.now) ≤ _
          omega
      have onward := reached.trans (.single fun span same => Event.elapse.inj same ▸ paced)
      exact onward.trans (ih (invariant.moves onward.moves) distinctNext awaited)

/-- **A schedule makes only timely runs**, if nobody waits when it begins. -/
theorem run_timelyRun (config : Config) (transport : Transport) (tasks : List (List Action))
    (invariant : Invariant config transport state) (nobody : state.waiting = []) :
    TimelyRun config transport state (run config transport tasks state).1 := by
  have absent : ∀ waiter, waiter ∉ state.waiting := by
    rw [nobody]
    exact fun waiter => List.not_mem_nil
  rw [run]
  exact advance_timelyRun config transport _ invariant
    (fun waiter member => absurd member (absent waiter))
    fun waiter member => absurd member (absent waiter)

end Schedule

end SealedCredentials.Channel
