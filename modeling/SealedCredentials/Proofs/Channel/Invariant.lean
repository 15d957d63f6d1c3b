import SealedCredentials.Proofs.Channel.Ledger

/-!
# What holds of every reachable state

Beside the ledger, every attempt is an exchange that was really made and has ended as its answer
or the limit says (`Attempt.Genuine`), and whoever waits waits for an attempt that was begun.
All this holds at first and survives every move, hence every run (`Invariant.run`).

A later state forgets nothing: attempts stay where they are and keep their ends
(`State.Extends`), and an established key stays for good (`Invariant.run_established`).
-/

set_option autoImplicit false

namespace SealedCredentials.Channel

open SealedCredentials.Envelope

variable {config : Config} {transport : Transport}

/-! ## Genuine attempts -/

namespace Attempt

/-- What the end of an attempt comes from: the answer, once it is there, or the limit, once it
has passed. -/
def Explains (config : Config) (now : Nat) (attempt : Attempt) (outcome : Outcome) : Prop :=
  attempt.answered now = true ∧ outcome = config.conclude attempt.exchange.answer ∨
    attempt.startedAt + config.limit ≤ now ∧ outcome = .error (.timedOut config.limit)

/-- An attempt is the exchange that was made of the channel's request, and has ended, if it has,
as its answer or the limit says. -/
structure Genuine (config : Config) (transport : Transport) (now number : Nat)
    (attempt : Attempt) : Prop where
  request : attempt.request = config.request
  exchange : attempt.exchange = transport number config.request
  startedAt_le : attempt.startedAt ≤ now
  explained : ∀ outcome, attempt.outcome = some outcome → attempt.Explains config now outcome

/-- An answer that is there stays there. -/
theorem answered_mono {attempt : Attempt} {now later : Nat} (passed : now ≤ later)
    (answered : attempt.answered now = true) : attempt.answered later = true := by
  unfold Attempt.answered at answered ⊢
  cases delay : attempt.exchange.delay with
  | none =>
    rw [delay] at answered
    cases answered
  | some span =>
    rw [delay] at answered
    simp only [decide_eq_true_eq] at answered ⊢
    omega

theorem Explains.mono {attempt : Attempt} {outcome : Outcome} {now later : Nat}
    (passed : now ≤ later) (explains : attempt.Explains config now outcome) :
    attempt.Explains config later outcome := by
  rcases explains with ⟨answered, same⟩ | ⟨expired, same⟩
  · exact .inl ⟨answered_mono passed answered, same⟩
  · exact .inr ⟨by omega, same⟩

theorem Genuine.mono {attempt : Attempt} {now later number : Nat} (passed : now ≤ later)
    (genuine : attempt.Genuine config transport now number) :
    attempt.Genuine config transport later number where
  request := genuine.request
  exchange := genuine.exchange
  startedAt_le := Nat.le_trans genuine.startedAt_le passed
  explained := fun outcome known => (genuine.explained outcome known).mono passed

/-- What a look shows is explained. -/
theorem Genuine.explains_of_look {attempt : Attempt} {outcome : Outcome} {now number : Nat}
    (genuine : attempt.Genuine config transport now number)
    (seen : attempt.look config now = some outcome) : attempt.Explains config now outcome := by
  cases known : attempt.outcome with
  | some written =>
    rw [look, known] at seen
    exact genuine.explained outcome (by rw [known, ← seen])
  | none =>
    rw [look, known] at seen
    by_cases answered : attempt.answered now = true
    · simp only [answered, if_true, Option.some.injEq] at seen
      exact .inl ⟨answered, seen.symm⟩
    · by_cases expired : attempt.startedAt + config.limit ≤ now
      · simp only [answered, Bool.false_eq_true, expired, if_true, if_false,
          Option.some.injEq] at seen
        exact .inr ⟨expired, seen.symm⟩
      · simp [answered, expired] at seen

end Attempt

/-! ## The invariant -/

/-- What holds of every state that a channel can reach. -/
structure Invariant (config : Config) (transport : Transport) (state : State) : Prop where
  ledger : ∃ faults, Ledger state faults
  genuine : ∀ (number : Nat) (attempt : Attempt), state.attempts[number]? = some attempt →
    attempt.Genuine config transport state.now number
  begun : ∀ waiter ∈ state.waiting, waiter.attempt < state.attempts.length
  purpose : ∀ waiter ∈ state.waiting, waiter.call.purpose = .ok waiter.purpose

namespace Invariant

variable {state next : State}

theorem fresh (now : Nat) : Invariant config transport (.fresh now) where
  ledger := ⟨[], .fresh now⟩
  genuine := by
    intro number attempt found
    simp [State.fresh] at found
  begun := by
    intro waiter member
    cases member
  purpose := by
    intro waiter member
    cases member

/-- The attempts after a move are genuine. -/
theorem genuine_move (invariant : Invariant config transport state)
    (taken : Move config transport state next) (number : Nat) (attempt : Attempt)
    (found : next.attempts[number]? = some attempt) :
    attempt.Genuine config transport next.now number := by
  cases taken with
  | enlist current purpose => exact invariant.genuine number attempt found
  | dismiss caller => exact invariant.genuine number attempt found
  | elapse span => exact (invariant.genuine number attempt found).mono (Nat.le_add_right _ _)
  | start idle =>
    rcases Nat.lt_or_ge number state.attempts.length with early | late
    · rw [State.start, List.getElem?_append_left early] at found
      exact invariant.genuine number attempt found
    · rw [State.start, List.getElem?_append_right late, List.getElem?_singleton,
        Option.ite_none_right_eq_some] at found
      obtain ⟨here, same⟩ := found
      have last : state.attempts.length = number := by omega
      rw [← Option.some.inj same, ← last]
      refine ⟨rfl, rfl, Nat.le_refl _, ?_⟩
      intro outcome known
      cases known
  | @settle place looked outcome there seen =>
    rw [State.settle_attempts, List.getElem?_modify] at found
    rw [State.settle_now]
    by_cases here : place = number
    · subst here
      rw [there] at found
      simp only [if_true, Option.map_eq_map, Option.map_some, Option.some.injEq] at found
      have genuine := invariant.genuine place looked there
      rw [← found]
      refine ⟨genuine.request, genuine.exchange, genuine.startedAt_le, ?_⟩
      intro shown same
      rw [← Option.some.inj same]
      exact genuine.explains_of_look seen
    · simp only [here, if_false, Option.map_eq_map, Option.map_id'] at found
      exact invariant.genuine number attempt found

/-- Every move keeps the invariant. -/
theorem move (invariant : Invariant config transport state)
    (taken : Move config transport state next) : Invariant config transport next := by
  obtain ⟨faults, ledger⟩ := invariant.ledger
  refine ⟨ledger.move taken, invariant.genuine_move taken, ?_, ?_⟩
  · intro waiter member
    cases taken with
    | start idle =>
      rw [State.start, List.length_append]
      exact Nat.lt_of_lt_of_le (invariant.begun waiter member) (Nat.le_add_right _ _)
    | settle found seen =>
      rw [State.settle_waiting] at member
      rw [State.settle_attempts, List.length_modify]
      exact invariant.begun waiter member
    | enlist current purpose =>
      rcases List.mem_append.mp member with earlier | last
      · exact invariant.begun waiter earlier
      · obtain ⟨attempt, found, -⟩ := ledger.unfinished_of_slot current
        rw [List.mem_singleton.mp last]
        exact (List.getElem?_eq_some_iff.mp found).1
    | dismiss caller => exact invariant.begun waiter (List.mem_filter.mp member).1
    | elapse span => exact invariant.begun waiter member
  · intro waiter member
    cases taken with
    | start idle => exact invariant.purpose waiter member
    | settle found seen =>
      rw [State.settle_waiting] at member
      exact invariant.purpose waiter member
    | enlist current purpose =>
      rcases List.mem_append.mp member with earlier | last
      · exact invariant.purpose waiter earlier
      · rw [List.mem_singleton.mp last]
        exact purpose
    | dismiss caller => exact invariant.purpose waiter (List.mem_filter.mp member).1
    | elapse span => exact invariant.purpose waiter member

theorem moves (invariant : Invariant config transport state)
    (taken : Moves config transport state next) : Invariant config transport next := by
  induction taken with
  | refl => exact invariant
  | tail _ last ih => exact ih.move last

theorem step (invariant : Invariant config transport state) (event : Event) :
    Invariant config transport (state.step config transport event).1 :=
  invariant.moves (state.step_moves event)

/-- **The invariant holds throughout every run.** -/
theorem run (start : Nat) (events : List Event) :
    Invariant config transport ((State.fresh start).run config transport events).1 :=
  (Invariant.fresh start).moves (State.run_moves _ events)

end Invariant

/-! ## What stays -/

/-- A later state remembers an earlier one: attempts stay where they are and keep their ends. -/
structure State.Extends (earlier later : State) : Prop where
  now_le : earlier.now ≤ later.now
  kept : ∀ (number : Nat) (attempt : Attempt), earlier.attempts[number]? = some attempt →
    ∃ still : Attempt, later.attempts[number]? = some still ∧
      ∀ outcome, attempt.outcome = some outcome → still.outcome = some outcome

namespace State

theorem Extends.refl (state : State) : Extends state state where
  now_le := Nat.le_refl _
  kept := fun _ attempt found => ⟨attempt, found, fun _ known => known⟩

theorem Extends.trans {first second third : State} (former : Extends first second)
    (latter : Extends second third) : Extends first third where
  now_le := Nat.le_trans former.now_le latter.now_le
  kept := by
    intro number attempt found
    obtain ⟨between, foundBetween, keptBetween⟩ := former.kept number attempt found
    obtain ⟨last, foundLast, keptLast⟩ := latter.kept number between foundBetween
    exact ⟨last, foundLast, fun outcome known => keptLast outcome (keptBetween outcome known)⟩

end State

theorem Move.extends {state next : State} (taken : Move config transport state next) :
    state.Extends next := by
  cases taken with
  | enlist current purpose => exact ⟨Nat.le_refl _, (State.Extends.refl state).kept⟩
  | dismiss caller => exact ⟨Nat.le_refl _, (State.Extends.refl state).kept⟩
  | elapse span => exact ⟨Nat.le_add_right _ _, (State.Extends.refl state).kept⟩
  | start idle =>
    refine ⟨Nat.le_refl _, ?_⟩
    intro number attempt found
    refine ⟨attempt, ?_, fun _ known => known⟩
    rw [State.start, List.getElem?_append_left (List.getElem?_eq_some_iff.mp found).1]
    exact found
  | @settle place looked outcome there seen =>
    refine ⟨Nat.le_of_eq (State.settle_now state place outcome).symm, ?_⟩
    intro number attempt found
    rw [State.settle_attempts, List.getElem?_modify, found]
    by_cases here : place = number
    · refine ⟨{ attempt with outcome := some outcome }, by simp [here], ?_⟩
      intro written known
      rw [here, found] at there
      rw [← Option.some.inj there, Attempt.look, known] at seen
      exact seen.symm
    · exact ⟨attempt, by simp [here], fun _ known => known⟩

theorem Moves.extends {state next : State} (taken : Moves config transport state next) :
    state.Extends next := by
  induction taken with
  | refl => exact .refl state
  | tail _ last ih => exact ih.trans last.extends

/-- A move after the key is there changes neither the slot nor the attempts. -/
theorem Invariant.established_move {state next : State}
    (invariant : Invariant config transport state) {material : Material}
    (held : state.slot = .established material) (taken : Move config transport state next) :
    next.slot = .established material ∧ next.attempts = state.attempts := by
  cases taken with
  | start idle =>
    rw [held] at idle
    cases idle
  | settle found seen =>
    obtain ⟨faults, ledger⟩ := invariant.ledger
    rw [ledger.settle_stale found seen (by rw [held]; exact fun same => by cases same)]
    exact ⟨held, rfl⟩
  | enlist current purpose => exact ⟨held, rfl⟩
  | dismiss caller => exact ⟨held, rfl⟩
  | elapse span => exact ⟨held, rfl⟩

theorem Invariant.established_moves {state next : State}
    (invariant : Invariant config transport state) {material : Material}
    (held : state.slot = .established material) (taken : Moves config transport state next) :
    next.slot = .established material ∧ next.attempts = state.attempts := by
  induction taken with
  | refl => exact ⟨held, rfl⟩
  | tail earlier last ih =>
    obtain ⟨slot, attempts⟩ := (invariant.moves earlier).established_move ih.1 last
    exact ⟨slot, attempts.trans ih.2⟩

/-- **An established key stays for good, and no attempt is begun or changed after it.** -/
theorem Invariant.run_established {state : State} (invariant : Invariant config transport state)
    {material : Material} (held : state.slot = .established material) (later : List Event) :
    (state.run config transport later).1.slot = .established material ∧
      (state.run config transport later).1.attempts = state.attempts :=
  invariant.established_moves held (state.run_moves later)

end SealedCredentials.Channel
