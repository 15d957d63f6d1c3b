import SealedCredentials.Proofs.Channel.Invariant

/-!
# Where answers come from

An answer either refuses a call that cannot be read, or says how one attempt of the channel
ended (`Answer.Explained`).  This holds when the answer is given (`State.step_explained`), and
since attempts keep their ends it still holds at the end of the run (`State.run_explained`): the
log of attempts explains everything that was ever said to anybody.  And every answer is to a
call that was made (`State.run_asked`).

Two calls are followed to their answers.  With a key there the answer comes at once and nothing
changes (`State.step_call_established`); on an idle channel whose counterpart answers at once,
the call that begins an attempt also sees its end (`State.step_call_prompt`).
-/

set_option autoImplicit false

namespace SealedCredentials.Channel

open SealedCredentials.Envelope

variable {config : Config} {transport : Transport}

/-! ## Ends of exchanges -/

/-- Only an accepted request with a usable public value leads to key material. -/
theorem Config.conclude_eq_ok_iff {answer : Except HandshakeFault Message.Reply}
    {material : Material} :
    config.conclude answer = .ok material ↔
      ∃ serverPublic secret, answer = .ok (.accepted serverPublic) ∧
        config.pair.shareText serverPublic = .ok secret ∧ material = .ofSecret secret := by
  constructor
  · intro concluded
    rcases answer with fault | ⟨serverPublic⟩ | reason
    · cases concluded
    · cases shared : config.pair.shareText serverPublic with
      | ok secret =>
        rw [Config.conclude, shared] at concluded
        exact ⟨serverPublic, secret, rfl, shared, (Except.ok.inj concluded).symm⟩
      | error fault =>
        rw [Config.conclude, shared] at concluded
        cases fault <;> cases concluded
    · cases concluded
  · rintro ⟨serverPublic, secret, rfl, shared, rfl⟩
    rw [Config.conclude, shared]

/-! ## Explained answers -/

/-- Why an answer is what it is: the call could not be read, or an attempt ended so. -/
inductive Answer.Explained (state : State) (answer : Answer) : Prop where
  | refused (fault : Text.Utf8.Fault) (unreadable : answer.call.purpose = .error fault)
      (said : answer.result = .error (.encoding fault))
  | concluded (number : Nat) (attempt : Attempt) (purpose : Purpose) (outcome : Outcome)
      (found : state.attempts[number]? = some attempt) (ended : attempt.outcome = some outcome)
      (needed : answer.call.purpose = .ok purpose)
      (said : answer.result = purpose.conclude outcome)

/-- What explains an answer is never forgotten. -/
theorem Answer.Explained.extend {earlier later : State} {answer : Answer}
    (explained : answer.Explained earlier) (longer : earlier.Extends later) :
    answer.Explained later := by
  cases explained with
  | refused fault unreadable said => exact .refused fault unreadable said
  | concluded number attempt purpose outcome found ended needed said =>
    obtain ⟨still, foundLater, kept⟩ := longer.kept number attempt found
    exact .concluded number still purpose outcome foundLater (kept outcome ended) needed said

namespace State

variable {state : State}

/-- Whoever joins an attempt and gets a result gets the end of that attempt. -/
theorem join_explained {waiter : Waiter} {result : Result}
    (given : (state.join config waiter).2 = some result) :
    ∃ attempt outcome, (state.join config waiter).1.attempts[waiter.attempt]? = some attempt ∧
      attempt.outcome = some outcome ∧ result = waiter.purpose.conclude outcome := by
  rcases state.join_cases config waiter with same | ⟨attempt, outcome, found, -, same⟩
  · rw [same] at given
    cases given
  · rw [same] at given ⊢
    exact ⟨_, outcome, getElem?_settle found outcome, rfl, (Option.some.inj given).symm⟩

/-- The answer to a call is explained when it is given. -/
theorem call_explained (invariant : Invariant config transport state) {caller : Nat}
    {call : Call} {result : Result}
    (given : (state.call config transport caller call).2 = some result) (begun ended : Nat) :
    (Answer.mk caller call begun ended result).Explained
      (state.call config transport caller call).1 := by
  rcases state.call_cases config transport caller call with ⟨-, same⟩ | ⟨fault, refused, same⟩ |
    ⟨purpose, material, needed, held, same⟩ | ⟨purpose, number, seated, needed, -, -, same⟩
  · rw [same] at given
    cases given
  · rw [same] at given
    exact .refused fault refused (Option.some.inj given).symm
  · rw [same] at given ⊢
    obtain ⟨faults, ledger⟩ := invariant.ledger
    obtain ⟨attempt, found, ended⟩ := ledger.last_of_established held
    exact .concluded _ attempt purpose (.ok material) found ended needed
      (Option.some.inj given).symm
  · rw [same] at given ⊢
    obtain ⟨attempt, outcome, found, ended, said⟩ := join_explained given
    exact .concluded number attempt purpose outcome found ended needed said

/-- The answer to a second look is explained when it is given. -/
theorem resume_explained (invariant : Invariant config transport state) {waiter : Waiter}
    (waits : waiter ∈ state.waiting) {result : Result}
    (given : (state.resume config waiter).2 = some result) (caller ended : Nat) :
    (Answer.mk caller waiter.call waiter.begun ended result).Explained
      (state.resume config waiter).1 := by
  rcases state.resume_cases config waiter with same | ⟨attempt, outcome, found, -, same⟩
  · rw [same] at given
    cases given
  · rw [same] at given ⊢
    exact .concluded waiter.attempt _ waiter.purpose outcome (getElem?_settle found outcome) rfl
      (invariant.purpose waiter waits) (Option.some.inj given).symm

/-- An answer is explained when it is given. -/
theorem step_explained (invariant : Invariant config transport state) {event : Event}
    {answer : Answer} (given : (state.step config transport event).2 = some answer) :
    answer.Explained (state.step config transport event).1 := by
  cases event with
  | call caller call =>
    simp only [step, Option.map_eq_some_iff] at given
    obtain ⟨result, given, rfl⟩ := given
    exact call_explained invariant given state.now state.now
  | resume caller =>
    cases place : state.waiter? caller with
    | none =>
      simp only [step, place] at given
      cases given
    | some waiter =>
      simp only [step, place, Option.map_eq_some_iff] at given ⊢
      obtain ⟨result, given, rfl⟩ := given
      exact resume_explained invariant (mem_of_waiter? place) given caller state.now
  | abandon caller => cases given
  | elapse span => cases given

/-- **The attempts of a run explain all its answers.** -/
theorem run_explained (invariant : Invariant config transport state) (events : List Event) :
    ∀ answer ∈ (state.run config transport events).2,
      answer.Explained (state.run config transport events).1 := by
  induction events generalizing state with
  | nil =>
    intro answer member
    cases member
  | cons event later ih =>
    intro answer member
    rw [run_cons] at member ⊢
    rcases List.mem_append.mp member with now | after
    · have given := Option.mem_toList.mp now
      exact (step_explained invariant given).extend (run_moves _ later).extends
    · exact ih (invariant.step event) answer after

/-! ## Whose answers they are -/

/-- Whoever waits after joining waited before or is the one who joined. -/
theorem mem_waiting_join {waiter member : Waiter}
    (waits : member ∈ (state.join config waiter).1.waiting) :
    member ∈ state.waiting ∨ member = waiter := by
  rcases state.join_cases config waiter with same | ⟨attempt, outcome, -, -, same⟩
  · rw [same] at waits
    exact (List.mem_append.mp waits).imp_right List.mem_singleton.mp
  · rw [same, settle_waiting] at waits
    exact .inl waits

/-- Whoever waits after a call waited before or has called, while there was no key. -/
theorem mem_waiting_call {caller : Nat} {call : Call} {member : Waiter}
    (waits : member ∈ (state.call config transport caller call).1.waiting) :
    member ∈ state.waiting ∨
      (member.caller = caller ∧ member.call = call) ∧ state.isEstablished = false := by
  rcases state.call_same_or_join config transport caller call with same |
    ⟨purpose, number, seated, -, held, origin, same⟩
  · rw [same] at waits
    exact .inl waits
  · rw [same] at waits
    rcases mem_waiting_join waits with before | rfl
    · rcases origin with rfl | ⟨-, -, rfl⟩
      · exact .inl before
      · exact .inl before
    · refine .inr ⟨⟨rfl, rfl⟩, ?_⟩
      rcases origin with rfl | ⟨idle, -, -⟩
      · rw [isEstablished, held]
      · rw [isEstablished, idle]

/-- Whoever waits after an event waited before, or has just called while there was no key. -/
theorem mem_waiting_step {event : Event} {member : Waiter}
    (waits : member ∈ (state.step config transport event).1.waiting) :
    member ∈ state.waiting ∨
      event = .call member.caller member.call ∧ state.isEstablished = false := by
  cases event with
  | call caller call =>
    rcases mem_waiting_call waits with before | ⟨⟨rfl, rfl⟩, keyless⟩
    · exact .inl before
    · exact .inr ⟨rfl, keyless⟩
  | resume caller =>
    left
    cases place : state.waiter? caller with
    | none =>
      simp only [step, place] at waits
      exact waits
    | some waiter =>
      simp only [step, place] at waits
      rcases state.resume_cases config waiter with same | ⟨attempt, outcome, -, -, same⟩
      · rw [same] at waits
        exact waits
      · rw [same] at waits
        have before := (List.mem_filter.mp waits).1
        rwa [settle_waiting] at before
  | abandon caller => exact .inl (List.mem_filter.mp waits).1
  | elapse span => exact .inl waits

/-- An answer goes to whoever has just called or waited. -/
theorem step_asked {event : Event} {answer : Answer}
    (given : (state.step config transport event).2 = some answer) :
    event = .call answer.caller answer.call ∨
      ∃ waiter ∈ state.waiting, waiter.caller = answer.caller ∧ waiter.call = answer.call := by
  cases event with
  | call caller call =>
    simp only [step, Option.map_eq_some_iff] at given
    obtain ⟨result, -, rfl⟩ := given
    exact .inl rfl
  | resume caller =>
    cases place : state.waiter? caller with
    | none =>
      simp only [step, place] at given
      cases given
    | some waiter =>
      simp only [step, place, Option.map_eq_some_iff] at given
      obtain ⟨result, -, rfl⟩ := given
      exact .inr ⟨waiter, mem_of_waiter? place, caller_of_waiter? place, rfl⟩
  | abandon caller => cases given
  | elapse span => cases given

/-- **Every answer of a run is to a call of the run**, or to somebody who waited before it. -/
theorem run_asked (state : State) (events : List Event) :
    ∀ answer ∈ (state.run config transport events).2,
      .call answer.caller answer.call ∈ events ∨
        ∃ waiter ∈ state.waiting, waiter.caller = answer.caller ∧ waiter.call = answer.call := by
  induction events generalizing state with
  | nil =>
    intro answer member
    cases member
  | cons event later ih =>
    intro answer member
    rw [run_cons] at member
    rcases List.mem_append.mp member with now | after
    · rcases step_asked (Option.mem_toList.mp now) with same | waited
      · exact .inl (same ▸ List.mem_cons_self)
      · exact .inr waited
    · rcases ih _ answer after with asked | ⟨waiter, waits, mine, its⟩
      · exact .inl (List.mem_cons_of_mem event asked)
      · rcases mem_waiting_step waits with before | ⟨same, -⟩
        · exact .inr ⟨waiter, before, mine, its⟩
        · rw [mine, its] at same
          exact .inl (same ▸ List.mem_cons_self)

/-! ## Calls that are answered at once -/

/-- With a key there, a call is served at once and changes nothing. -/
theorem step_call_established {material : Material} (held : state.slot = .established material)
    {caller : Nat} (free : state.waiter? caller = none) {call : Call} {purpose : Purpose}
    (needed : call.purpose = .ok purpose) :
    state.step config transport (.call caller call) =
      (state, some ⟨caller, call, state.now, state.now, .ok (purpose.serve material)⟩) := by
  simp only [step, State.call, free, Option.isSome_none, Bool.false_eq_true, if_false, needed,
    demand, held, Option.map_some]

/-- If nobody waits when there is a key, nobody will. -/
theorem run_waiting_established (invariant : Invariant config transport state)
    {material : Material} (held : state.slot = .established material) (nobody : state.waiting = [])
    (later : List Event) : (state.run config transport later).1.waiting = [] := by
  induction later generalizing state with
  | nil => exact nobody
  | cons event rest ih =>
    rw [run_cons]
    refine ih (invariant.step event) (invariant.established_moves held (step_moves _ event)).1 ?_
    refine List.eq_nil_iff_forall_not_mem.mpr fun member waits => ?_
    rcases mem_waiting_step waits with before | ⟨-, keyless⟩
    · rw [nobody] at before
      cases before
    · rw [isEstablished, held] at keyless
      cases keyless

/-- An attempt whose answer is there at once ends with the call that begins it. -/
theorem step_call_prompt (idle : state.slot = .idle) {caller : Nat}
    (free : state.waiter? caller = none) {call : Call} {purpose : Purpose}
    (needed : call.purpose = .ok purpose) {answer : Except HandshakeFault Message.Reply}
    (prompt : transport state.attempts.length config.request = ⟨some 0, answer⟩) :
    state.step config transport (.call caller call) =
      ((state.start config transport).settle state.attempts.length (config.conclude answer),
        some ⟨caller, call, state.now, state.now,
          purpose.conclude (config.conclude answer)⟩) := by
  have begun : (state.start config transport).attempts[state.attempts.length]? =
      some ⟨config.request, state.now, ⟨some 0, answer⟩, none⟩ := by
    rw [start, List.getElem?_append_right (Nat.le_refl _), Nat.sub_self, prompt]
    rfl
  have seen : Attempt.look ⟨config.request, state.now, ⟨some 0, answer⟩, none⟩ config
      (state.start config transport).now = some (config.conclude answer) := by
    simp [Attempt.look, Attempt.answered, start]
  simp only [step, State.call, free, Option.isSome_none, Bool.false_eq_true, if_false, needed,
    demand, idle, join, look_of_seen begun seen, Option.map_some]

end State

end SealedCredentials.Channel
