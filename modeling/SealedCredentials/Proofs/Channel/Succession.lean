import SealedCredentials.Proofs.Channel.Moves

/-!
# A channel with a past

Put earlier attempts in front of those of a state, and count the numbers of its own attempts on
from them (`State.after`).  Nothing that happens can tell the difference: every operation does to
the state with a past what it does to the state without, provided the exchanges that are still to
come are the same (`Transport.after`).  So the two make the same requests, give the same answers
and end in the same state but for the past (`State.run_after`).
-/

set_option autoImplicit false

namespace SealedCredentials.Channel

/-! ## The past -/

/-- What the slot holds when the attempts are counted from `offset` on. -/
def Slot.after (offset : Nat) : Slot → Slot
  | .idle => .idle
  | .pending number => .pending (offset + number)
  | .established material => .established material

/-- A waiter when the attempts are counted from `offset` on. -/
def Waiter.after (offset : Nat) (waiter : Waiter) : Waiter :=
  { waiter with attempt := offset + waiter.attempt }

/-- A state with a past: earlier attempts stand before its own. -/
def State.after (earlier : List Attempt) (state : State) : State where
  now := state.now
  slot := state.slot.after earlier.length
  attempts := earlier ++ state.attempts
  waiting := state.waiting.map (Waiter.after earlier.length)

/-- The exchanges from the one of number `offset` on. -/
def Transport.after (offset : Nat) (transport : Transport) : Transport := fun number request =>
  transport (offset + number) request

variable {config : Config} {transport : Transport}

theorem Slot.after_eq_pending_iff {slot : Slot} {offset number : Nat} :
    slot.after offset = .pending (offset + number) ↔ slot = .pending number := by
  cases slot with
  | idle => simp only [after, reduceCtorEq]
  | pending other => simp only [after, pending.injEq, Nat.add_left_cancel_iff]
  | established material => simp only [after, reduceCtorEq]

/-- A change behind a list leaves the list alone. -/
theorem modify_append_add {α : Type} (front back : List α) (place : Nat) (change : α → α) :
    (front ++ back).modify (front.length + place) change = front ++ back.modify place change := by
  rw [List.modify_eq_take_drop, List.take_length_add_append, List.drop_length_add_append,
    List.append_assoc, ← List.modify_eq_take_drop]

namespace State

variable (earlier : List Attempt) (state : State)

/-! ## Operations on a state with a past -/

theorem getElem?_after (number : Nat) :
    (state.after earlier).attempts[earlier.length + number]? = state.attempts[number]? := by
  rw [after, List.getElem?_append_right (Nat.le_add_right _ _), Nat.add_sub_cancel_left]

theorem waiter?_after (caller : Nat) :
    (state.after earlier).waiter? caller =
      (state.waiter? caller).map (Waiter.after earlier.length) := by
  rw [waiter?, after, List.find?_map]
  rfl

theorem dismiss_after (caller : Nat) :
    (state.after earlier).dismiss caller = (state.dismiss caller).after earlier := by
  simp only [dismiss, after, List.filter_map]
  rfl

/-- The end of an attempt is written down behind the past. -/
theorem settle_after (number : Nat) (outcome : Outcome) :
    (state.after earlier).settle (earlier.length + number) outcome =
      (state.settle number outcome).after earlier := by
  unfold settle
  simp only [after, Slot.after_eq_pending_iff, modify_append_add]
  split
  · cases outcome with
    | ok material => rfl
    | error fault => rfl
  · rfl

theorem look_after (number : Nat) :
    (state.after earlier).look config (earlier.length + number) =
      ((state.look config number).1.after earlier, (state.look config number).2) := by
  simp only [look, getElem?_after]
  cases state.attempts[number]? with
  | none => rfl
  | some attempt =>
    have clock : (state.after earlier).now = state.now := rfl
    simp only [clock]
    cases attempt.look config state.now with
    | none => rfl
    | some outcome => simp only [settle_after]

theorem join_after (waiter : Waiter) :
    (state.after earlier).join config (waiter.after earlier.length) =
      ((state.join config waiter).1.after earlier, (state.join config waiter).2) := by
  have place : (waiter.after earlier.length).attempt = earlier.length + waiter.attempt := rfl
  rw [join, join, place, look_after]
  rcases state.look config waiter.attempt with ⟨seen, _ | outcome⟩
  · simp only [after, List.map_append]
    rfl
  · rfl

theorem start_after :
    (state.after earlier).start config transport =
      (state.start config (transport.after earlier.length)).after earlier := by
  simp only [start, after, List.length_append, List.append_assoc]
  rfl

theorem demand_after (caller : Nat) (call : Call) (purpose : Purpose) :
    (state.after earlier).demand config transport caller call purpose =
      ((state.demand config (transport.after earlier.length) caller call purpose).1.after earlier,
        (state.demand config (transport.after earlier.length) caller call purpose).2) := by
  have clock : (state.after earlier).now = state.now := rfl
  cases held : state.slot with
  | established material =>
    have holds : (state.after earlier).slot = .established material := by
      rw [after, held]
      rfl
    simp only [demand, held, holds]
  | pending number =>
    have holds : (state.after earlier).slot = .pending (earlier.length + number) := by
      rw [after, held]
      rfl
    simp only [demand, held, holds, clock]
    exact state.join_after earlier ⟨caller, call, purpose, state.now, number⟩
  | idle =>
    have holds : (state.after earlier).slot = .idle := by
      rw [after, held]
      rfl
    have last : (state.after earlier).attempts.length =
        earlier.length + state.attempts.length := List.length_append
    simp only [demand, held, holds, clock, last, start_after]
    exact (state.start config (transport.after earlier.length)).join_after earlier
      ⟨caller, call, purpose, state.now, state.attempts.length⟩

theorem call_after (caller : Nat) (call : Call) :
    (state.after earlier).call config transport caller call =
      ((state.call config (transport.after earlier.length) caller call).1.after earlier,
        (state.call config (transport.after earlier.length) caller call).2) := by
  simp only [State.call, waiter?_after, Option.isSome_map]
  split
  · rfl
  · cases call.purpose with
    | error fault => rfl
    | ok purpose => exact state.demand_after earlier caller call purpose

theorem resume_after (waiter : Waiter) :
    (state.after earlier).resume config (waiter.after earlier.length) =
      ((state.resume config waiter).1.after earlier, (state.resume config waiter).2) := by
  have place : (waiter.after earlier.length).attempt = earlier.length + waiter.attempt := rfl
  rw [resume, resume, place, look_after]
  rcases state.look config waiter.attempt with ⟨seen, _ | outcome⟩
  · rfl
  · simp only [← dismiss_after]
    rfl

/-! ## Events and runs -/

/-- An event cannot tell a state with a past from one without. -/
theorem step_after (event : Event) :
    (state.after earlier).step config transport event =
      ((state.step config (transport.after earlier.length) event).1.after earlier,
        (state.step config (transport.after earlier.length) event).2) := by
  cases event with
  | call caller call =>
    simp only [step, call_after]
    rfl
  | resume caller =>
    simp only [step, waiter?_after]
    cases state.waiter? caller with
    | none => rfl
    | some waiter =>
      simp only [Option.map_some, resume_after]
      rfl
  | abandon caller => simp only [step, dismiss_after]
  | elapse span => rfl

/-- **A run cannot tell a state with a past from one without.** -/
theorem run_after (events : List Event) :
    (state.after earlier).run config transport events =
      ((state.run config (transport.after earlier.length) events).1.after earlier,
        (state.run config (transport.after earlier.length) events).2) := by
  induction events generalizing state with
  | nil => rfl
  | cons event later ih => simp only [run_cons, step_after, ih]

end State

end SealedCredentials.Channel
