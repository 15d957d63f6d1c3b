import SealedCredentials.Channel.Basic
import Mathlib.Logic.Relation

/-!
# What an event can do to a channel

A state changes in five ways only.  A new attempt takes the slot when it is idle; the end of an
attempt becomes known to somebody who looks at it; a caller begins to wait for the attempt that
the slot holds; a caller stops waiting; time passes.  Every event is a sequence of such moves
(`step_moves`), so whatever each move keeps is kept by every run (`run_moves`).
-/

set_option autoImplicit false

namespace SealedCredentials.Channel

variable {config : Config} {transport : Transport}

/-! ## Moves -/

/-- The ways in which a state changes. -/
inductive Move (config : Config) (transport : Transport) : State → State → Prop where
  | start {state : State} (idle : state.slot = .idle) :
      Move config transport state (state.start config transport)
  /-- Somebody looks at an attempt and sees its end. -/
  | settle {state : State} {number : Nat} {attempt : Attempt} {outcome : Outcome}
      (found : state.attempts[number]? = some attempt)
      (seen : attempt.look config state.now = some outcome) :
      Move config transport state (state.settle number outcome)
  | enlist {state : State} {waiter : Waiter} (current : state.slot = .pending waiter.attempt)
      (purpose : waiter.call.purpose = .ok waiter.purpose) :
      Move config transport state { state with waiting := state.waiting ++ [waiter] }
  | dismiss {state : State} (caller : Nat) : Move config transport state (state.dismiss caller)
  | elapse {state : State} (span : Nat) :
      Move config transport state { state with now := state.now + span }

/-- Any number of moves. -/
abbrev Moves (config : Config) (transport : Transport) : State → State → Prop :=
  Relation.ReflTransGen (Move config transport)

namespace State

/-! ## Waiters -/

theorem mem_of_waiter? {state : State} {caller : Nat} {waiter : Waiter}
    (found : state.waiter? caller = some waiter) : waiter ∈ state.waiting :=
  List.mem_of_find?_eq_some found

theorem caller_of_waiter? {state : State} {caller : Nat} {waiter : Waiter}
    (found : state.waiter? caller = some waiter) : waiter.caller = caller := by
  unfold waiter? at found
  have mine := List.find?_some found
  exact beq_iff_eq.mp mine

/-! ## Looks -/

/-- A look at an attempt whose end can be seen. -/
theorem look_of_seen {state : State} {number : Nat} {attempt : Attempt} {outcome : Outcome}
    (found : state.attempts[number]? = some attempt)
    (seen : attempt.look config state.now = some outcome) :
    state.look config number = (state.settle number outcome, some outcome) := by
  rw [look, found]
  simp only [seen]

/-- A look that shows no end changes nothing; one that does settles the attempt. -/
theorem look_cases (state : State) (config : Config) (number : Nat) :
    state.look config number = (state, none) ∨
      ∃ attempt outcome, state.attempts[number]? = some attempt ∧
        attempt.look config state.now = some outcome ∧
        state.look config number = (state.settle number outcome, some outcome) := by
  cases found : state.attempts[number]? with
  | none =>
    left
    rw [look, found]
  | some attempt =>
    cases seen : attempt.look config state.now with
    | none =>
      left
      rw [look, found]
      simp only [seen]
    | some outcome => exact .inr ⟨attempt, outcome, rfl, seen, look_of_seen found seen⟩

theorem settle_now (state : State) (number : Nat) (outcome : Outcome) :
    (state.settle number outcome).now = state.now := by
  unfold settle
  split
  · cases outcome <;> rfl
  · rfl

theorem settle_waiting (state : State) (number : Nat) (outcome : Outcome) :
    (state.settle number outcome).waiting = state.waiting := by
  unfold settle
  split
  · cases outcome <;> rfl
  · rfl

/-- The end of an attempt is written down with it. -/
theorem settle_attempts (state : State) (number : Nat) (outcome : Outcome) :
    (state.settle number outcome).attempts =
      state.attempts.modify number fun attempt => { attempt with outcome := some outcome } := by
  unfold settle
  split
  · cases outcome <;> rfl
  · rfl

/-- Who waits plays no part in the end of an attempt. -/
theorem settle_with_waiting (state : State) (waiting : List Waiter) (number : Nat)
    (outcome : Outcome) :
    ({ state with waiting := waiting } : State).settle number outcome =
      { state.settle number outcome with waiting := waiting } := by
  unfold settle
  split
  · cases outcome <;> rfl
  · rfl

/-- Who waits plays no part in a look. -/
theorem look_with_waiting (state : State) (waiting : List Waiter) (config : Config)
    (number : Nat) :
    ({ state with waiting := waiting } : State).look config number =
      ({ (state.look config number).1 with waiting := waiting },
        (state.look config number).2) := by
  simp only [look]
  cases state.attempts[number]? with
  | none => rfl
  | some attempt =>
    cases seen : attempt.look config state.now with
    | none => simp only [seen]
    | some outcome => simp only [seen, settle_with_waiting]

theorem look_waiting (state : State) (config : Config) (number : Nat) :
    (state.look config number).1.waiting = state.waiting := by
  rcases state.look_cases config number with blind | ⟨attempt, outcome, -, -, same⟩
  · rw [blind]
  · rw [same, settle_waiting]

theorem getElem?_settle {state : State} {number : Nat} {attempt : Attempt}
    (found : state.attempts[number]? = some attempt) (outcome : Outcome) :
    (state.settle number outcome).attempts[number]? =
      some { attempt with outcome := some outcome } := by
  rw [settle_attempts, List.getElem?_modify, found]
  simp

theorem map_outcome_settle (state : State) (number : Nat) (outcome : Outcome) :
    (state.settle number outcome).attempts.map Attempt.outcome =
      (state.attempts.map Attempt.outcome).set number (some outcome) := by
  rw [settle_attempts]
  refine List.ext_getElem? fun place => ?_
  rw [List.getElem?_map, List.getElem?_modify, List.getElem?_set, List.getElem?_map]
  by_cases here : number = place
  · subst here
    cases found : state.attempts[number]? with
    | none => simp [List.getElem?_eq_none_iff.mp found]
    | some attempt => simp [(List.getElem?_eq_some_iff.mp found).1]
  · simp [here]

/-- The end of the attempt in the slot decides what the slot holds. -/
theorem settle_slot_ok {state : State} {number : Nat} (current : state.slot = .pending number)
    (material : Envelope.Material) :
    (state.settle number (.ok material)).slot = .established material := by
  unfold settle
  rw [if_pos current]

theorem settle_slot_error {state : State} {number : Nat} (current : state.slot = .pending number)
    (fault : HandshakeFault) : (state.settle number (.error fault)).slot = .idle := by
  unfold settle
  rw [if_pos current]

/-- An end that is already written down, of an attempt that the slot does not hold, is no
news. -/
theorem settle_of_known {state : State} {number : Nat} {attempt : Attempt} {outcome : Outcome}
    (found : state.attempts[number]? = some attempt) (known : attempt.outcome = some outcome)
    (other : state.slot ≠ .pending number) : state.settle number outcome = state := by
  have same : (state.attempts.modify number fun attempt =>
      { attempt with outcome := some outcome }) = state.attempts := by
    refine List.ext_getElem? fun place => ?_
    rw [List.getElem?_modify]
    by_cases here : number = place
    · subst here
      rw [found]
      simp [← known]
    · simp [here]
  unfold settle
  rw [if_neg other, same]

/-! ## What operations come to -/

/-- Whoever joins an attempt waits for it or gets its end. -/
theorem join_cases (state : State) (config : Config) (waiter : Waiter) :
    state.join config waiter = ({ state with waiting := state.waiting ++ [waiter] }, none) ∨
      ∃ attempt outcome, state.attempts[waiter.attempt]? = some attempt ∧
        attempt.look config state.now = some outcome ∧
        state.join config waiter =
          (state.settle waiter.attempt outcome, some (waiter.purpose.conclude outcome)) := by
  rcases state.look_cases config waiter.attempt with blind | ⟨attempt, outcome, found, seen, same⟩
  · left
    rw [join, blind]
  · right
    refine ⟨attempt, outcome, found, seen, ?_⟩
    rw [join, same]

/-- Whoever looks again sees nothing or gets the end of its attempt and is gone. -/
theorem resume_cases (state : State) (config : Config) (waiter : Waiter) :
    state.resume config waiter = (state, none) ∨
      ∃ attempt outcome, state.attempts[waiter.attempt]? = some attempt ∧
        attempt.look config state.now = some outcome ∧
        state.resume config waiter =
          ((state.settle waiter.attempt outcome).dismiss waiter.caller,
            some (waiter.purpose.conclude outcome)) := by
  rcases state.look_cases config waiter.attempt with blind | ⟨attempt, outcome, found, seen, same⟩
  · left
    rw [resume, blind]
  · right
    refine ⟨attempt, outcome, found, seen, ?_⟩
    rw [resume, same]

/-- A call is ignored, refused or served at once, or its caller joins the attempt in the slot,
which the call itself may have begun. -/
theorem call_cases (config : Config) (transport : Transport) (state : State) (caller : Nat)
    (call : Call) :
    ((state.waiter? caller).isSome ∧ state.call config transport caller call = (state, none)) ∨
      (∃ fault, call.purpose = .error fault ∧
        state.call config transport caller call = (state, some (.error (.encoding fault)))) ∨
      (∃ purpose material, call.purpose = .ok purpose ∧ state.slot = .established material ∧
        state.call config transport caller call =
          (state, some (.ok (purpose.serve material)))) ∨
      ∃ purpose number seated, call.purpose = .ok purpose ∧ seated.slot = .pending number ∧
        (seated = state ∨ state.slot = .idle ∧ number = state.attempts.length ∧
          seated = state.start config transport) ∧
        state.call config transport caller call =
          seated.join config ⟨caller, call, purpose, state.now, number⟩ := by
  by_cases busy : (state.waiter? caller).isSome
  · exact .inl ⟨busy, by rw [State.call, if_pos busy]⟩
  · rw [State.call, if_neg busy]
    right
    cases needed : call.purpose with
    | error fault => exact .inl ⟨fault, rfl, rfl⟩
    | ok purpose =>
      right
      simp only [demand]
      cases held : state.slot with
      | established material => exact .inl ⟨purpose, material, rfl, rfl, rfl⟩
      | pending number => exact .inr ⟨purpose, number, state, rfl, held, .inl rfl, rfl⟩
      | idle =>
        exact .inr ⟨purpose, state.attempts.length, state.start config transport, rfl, rfl,
          .inr ⟨rfl, rfl, rfl⟩, rfl⟩

/-- A call leaves the state as it is, or its caller joins the attempt in the slot. -/
theorem call_same_or_join (config : Config) (transport : Transport) (state : State) (caller : Nat)
    (call : Call) :
    (state.call config transport caller call).1 = state ∨
      ∃ purpose number seated, call.purpose = .ok purpose ∧ seated.slot = .pending number ∧
        (seated = state ∨ state.slot = .idle ∧ number = state.attempts.length ∧
          seated = state.start config transport) ∧
        state.call config transport caller call =
          seated.join config ⟨caller, call, purpose, state.now, number⟩ := by
  rcases state.call_cases config transport caller call with ⟨-, same⟩ | ⟨fault, -, same⟩ |
    ⟨purpose, material, -, -, same⟩ | joins
  · exact .inl (congrArg Prod.fst same)
  · exact .inl (congrArg Prod.fst same)
  · exact .inl (congrArg Prod.fst same)
  · exact .inr joins

/-- Whoever joins an attempt finds the callers and the clock as they were, even if it has just
begun the attempt. -/
theorem seated_kept {state seated : State} {number : Nat}
    (origin : seated = state ∨ state.slot = .idle ∧ number = state.attempts.length ∧
      seated = state.start config transport) :
    seated.now = state.now ∧ seated.waiting = state.waiting := by
  rcases origin with rfl | ⟨-, -, rfl⟩
  · exact ⟨rfl, rfl⟩
  · exact ⟨rfl, rfl⟩

/-! ## Events -/

/-- Whoever joins the attempt that the slot holds looks at it and perhaps waits. -/
theorem join_moves {state : State} {waiter : Waiter}
    (current : state.slot = .pending waiter.attempt)
    (purpose : waiter.call.purpose = .ok waiter.purpose) :
    Moves config transport state (state.join config waiter).1 := by
  rcases state.join_cases config waiter with same | ⟨attempt, outcome, found, seen, same⟩
  · rw [same]
    exact .single (.enlist current purpose)
  · rw [same]
    exact .single (.settle found seen)

theorem call_moves (state : State) (caller : Nat) (call : Call) :
    Moves config transport state (state.call config transport caller call).1 := by
  rcases state.call_same_or_join config transport caller call with same |
    ⟨purpose, number, seated, needed, held, origin, same⟩
  · rw [same]
  · have reached : Moves config transport state seated := by
      rcases origin with rfl | ⟨idle, -, rfl⟩
      · exact .refl
      · exact .single (.start idle)
    rw [same]
    exact reached.trans (join_moves held needed)

theorem resume_moves (state : State) (waiter : Waiter) :
    Moves config transport state (state.resume config waiter).1 := by
  rcases state.resume_cases config waiter with same | ⟨attempt, outcome, found, seen, same⟩
  · rw [same]
  · rw [same]
    exact .tail (.single (.settle found seen)) (.dismiss waiter.caller)

/-- **Every event is a sequence of moves.** -/
theorem step_moves (state : State) (event : Event) :
    Moves config transport state (state.step config transport event).1 := by
  cases event with
  | call caller call => exact state.call_moves caller call
  | resume caller =>
    rw [step]
    cases state.waiter? caller with
    | none => exact .refl
    | some waiter => exact state.resume_moves waiter
  | abandon caller => exact .single (.dismiss caller)
  | elapse span => exact .single (.elapse span)

/-! ## Runs -/

theorem run_nil (state : State) : run config transport state [] = (state, []) := rfl

theorem run_cons (state : State) (event : Event) (later : List Event) :
    run config transport state (event :: later) =
      ((run config transport (state.step config transport event).1 later).1,
        (state.step config transport event).2.toList ++
          (run config transport (state.step config transport event).1 later).2) := rfl

/-- A run goes on from where its first part ended. -/
theorem run_append (state : State) (earlier later : List Event) :
    run config transport state (earlier ++ later) =
      ((run config transport (run config transport state earlier).1 later).1,
        (run config transport state earlier).2 ++
          (run config transport (run config transport state earlier).1 later).2) := by
  induction earlier generalizing state with
  | nil => rfl
  | cons event rest ih => rw [List.cons_append, run_cons, ih, run_cons, List.append_assoc]

theorem run_moves (state : State) (events : List Event) :
    Moves config transport state (run config transport state events).1 := by
  induction events generalizing state with
  | nil => exact .refl
  | cons event later ih => exact (state.step_moves event).trans (ih _)

end State

end SealedCredentials.Channel
