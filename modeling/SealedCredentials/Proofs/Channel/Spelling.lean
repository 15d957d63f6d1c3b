import SealedCredentials.Proofs.Channel.Provenance

/-!
# Bytes are sealed as the text that they spell

Bytes that spell no text are refused before the channel does anything: the state stays as it is, so
a run goes on as if the call had not been made.  Bytes that spell a text are sealed as this text.
What remains of them is that the call is written down with them, with its caller while that waits
and with the answer.  Put the text in their place everywhere (`State.spelled`), and no event can
tell the difference (`State.step_spelled`, `State.run_spelled`).

The bytes that spell a text are the valid UTF-8 of the standard library, so the main result,
`State.bytes_spelled`, says of every call with bytes what becomes of it and of the others.
-/

set_option autoImplicit false

namespace SealedCredentials.Channel

open Agreement Envelope

/-! ## In plain words -/

/-- A call in which bytes that spell a text are replaced by the text. -/
def Call.spelled : Call → Call
  | .sealBytes bytes salt =>
    match Text.Utf8.toString? bytes with
    | .ok text => .sealText text salt
    | .error _ => .sealBytes bytes salt
  | call => call

/-- A caller that waits, its call in plain words. -/
def Waiter.spelled (waiter : Waiter) : Waiter := { waiter with call := waiter.call.spelled }

/-- An answer, its call in plain words. -/
def Answer.spelled (answer : Answer) : Answer := { answer with call := answer.call.spelled }

/-- An event, its call in plain words. -/
def Event.spelled : Event → Event
  | call caller made => .call caller made.spelled
  | event => event

/-- A state, the calls of all who wait in plain words. -/
def State.spelled (state : State) : State :=
  { state with waiting := state.waiting.map Waiter.spelled }

theorem Call.spelled_of_toUTF8 {bytes : List UInt8} {text : String}
    (spells : text.toUTF8 = bytes.toByteArray) (salt : Salt) :
    (Call.sealBytes bytes salt).spelled = (Call.sealText text salt).spelled := by
  rw [spelled, Text.Utf8.toString?_eq_ok_iff.mpr spells]
  rfl

/-- A call in plain words serves the same purpose. -/
theorem Call.purpose_spelled (call : Call) : call.spelled.purpose = call.purpose := by
  cases call with
  | ensure => rfl
  | sealText text salt => rfl
  | sealBytes bytes salt =>
    rw [spelled]
    cases read : Text.Utf8.toString? bytes with
    | error fault => rfl
    | ok text => simp only [purpose, read]

namespace State

variable {config : Config} {transport : Transport} (state : State)

/-! ## Events -/

theorem waiter?_spelled (caller : Nat) :
    state.spelled.waiter? caller = (state.waiter? caller).map Waiter.spelled := by
  rw [waiter?, spelled, List.find?_map]
  rfl

theorem dismiss_spelled (caller : Nat) :
    state.spelled.dismiss caller = (state.dismiss caller).spelled := by
  simp only [dismiss, spelled, List.filter_map]
  rfl

theorem look_spelled (number : Nat) :
    state.spelled.look config number =
      ((state.look config number).1.spelled, (state.look config number).2) := by
  rw [spelled, look_with_waiting, spelled, look_waiting]

theorem join_spelled (waiter : Waiter) :
    state.spelled.join config waiter.spelled =
      ((state.join config waiter).1.spelled, (state.join config waiter).2) := by
  have place : waiter.spelled.attempt = waiter.attempt := rfl
  rw [join, join, place, look_spelled]
  rcases state.look config waiter.attempt with ⟨seen, _ | outcome⟩
  · simp only [spelled, List.map_append]
    rfl
  · rfl

theorem resume_spelled (waiter : Waiter) :
    state.spelled.resume config waiter.spelled =
      ((state.resume config waiter).1.spelled, (state.resume config waiter).2) := by
  have place : waiter.spelled.attempt = waiter.attempt := rfl
  rw [resume, resume, place, look_spelled]
  rcases state.look config waiter.attempt with ⟨seen, _ | outcome⟩
  · rfl
  · simp only [← dismiss_spelled]
    rfl

theorem demand_spelled (caller : Nat) (call : Call) (purpose : Purpose) :
    state.spelled.demand config transport caller call.spelled purpose =
      ((state.demand config transport caller call purpose).1.spelled,
        (state.demand config transport caller call purpose).2) := by
  have kept : state.spelled.slot = state.slot := rfl
  simp only [demand, kept]
  cases state.slot with
  | established material => rfl
  | pending number => exact state.join_spelled ⟨caller, call, purpose, state.now, number⟩
  | idle =>
    exact (state.start config transport).join_spelled
      ⟨caller, call, purpose, state.now, state.attempts.length⟩

theorem call_spelled (caller : Nat) (call : Call) :
    state.spelled.call config transport caller call.spelled =
      ((state.call config transport caller call).1.spelled,
        (state.call config transport caller call).2) := by
  simp only [State.call, waiter?_spelled, Option.isSome_map, Call.purpose_spelled]
  split
  · rfl
  · cases call.purpose with
    | error fault => rfl
    | ok purpose => exact state.demand_spelled caller call purpose

/-- **An event cannot tell bytes from the text that they spell.** -/
theorem step_spelled (event : Event) :
    state.spelled.step config transport event.spelled =
      ((state.step config transport event).1.spelled,
        (state.step config transport event).2.map Answer.spelled) := by
  cases event with
  | call caller call =>
    simp only [Event.spelled, step, call_spelled, Option.map_map]
    rfl
  | resume caller =>
    simp only [Event.spelled, step, waiter?_spelled]
    cases state.waiter? caller with
    | none => rfl
    | some waiter =>
      simp only [Option.map_some, resume_spelled, Option.map_map]
      rfl
  | abandon caller => simp only [Event.spelled, step, dismiss_spelled, Option.map_none]
  | elapse span => rfl

/-- **A run cannot tell bytes from the text that they spell.** -/
theorem run_spelled (events : List Event) :
    state.spelled.run config transport (events.map Event.spelled) =
      ((state.run config transport events).1.spelled,
        (state.run config transport events).2.map Answer.spelled) := by
  induction events generalizing state with
  | nil => rfl
  | cons event later ih =>
    simp only [List.map_cons, run_cons, step_spelled, ih, List.map_append, Option.toList_map]

/-- Events that are the same in plain words lead to states and answers that are. -/
theorem run_congr_spelled (config : Config) (transport : Transport) {events others : List Event}
    (same : events.map Event.spelled = others.map Event.spelled) :
    (state.run config transport events).1.spelled =
        (state.run config transport others).1.spelled ∧
      (state.run config transport events).2.map Answer.spelled =
        (state.run config transport others).2.map Answer.spelled := by
  have first : state.spelled.run config transport (events.map Event.spelled) = _ :=
    state.run_spelled events
  rw [same, run_spelled] at first
  exact (Prod.mk.inj first).imp Eq.symm Eq.symm

/-- Bytes that spell no text are refused at once, and nothing changes. -/
theorem step_call_refused (config : Config) (transport : Transport) {state : State} {caller : Nat}
    (free : state.waiter? caller = none) {call : Call} {fault : Text.Utf8.Fault}
    (refused : call.purpose = .error fault) :
    state.step config transport (.call caller call) =
      (state, some ⟨caller, call, state.now, state.now, .error (.encoding fault)⟩) := by
  simp only [step, State.call, free, Option.isSome_none, Bool.false_eq_true, if_false, refused,
    Option.map_some]

/-! ## The main result -/

/-- What a call with bytes is served with is an envelope that opens to the text that they spell. -/
theorem run_sealBytes {state : State} (invariant : Invariant config transport state)
    {events : List Event} {answer : Answer}
    (member : answer ∈ (state.run config transport events).2)
    {bytes : List UInt8} {salt : Salt} (asked : answer.call = .sealBytes bytes salt)
    {text : String} (spells : text.toUTF8 = bytes.toByteArray) {product : Product}
    (served : answer.result = .ok product) :
    ∃ material wire, (state.run config transport events).1.slot = .established material ∧
      product = .envelope wire ∧ openText material wire = .ok text := by
  have needed : answer.call.purpose = .ok (.sealing text salt) := by
    rw [asked, Call.purpose, Text.Utf8.toString?_eq_ok_iff.mpr spells]
  cases run_explained invariant events answer member with
  | refused fault unreadable said =>
    rw [said] at served
    cases served
  | concluded number attempt purpose outcome found ended purposed said =>
    cases needed.symm.trans purposed
    rw [said] at served
    cases outcome with
    | error fault => cases served
    | ok material =>
      obtain ⟨faults, ledger⟩ := (invariant.moves (run_moves state events)).ledger
      cases served
      exact ⟨material, _, ledger.established_of_ok found ended, rfl,
        openText_sealText material text salt⟩

/-- **Invalid bytes are invisible to the channel, and valid ones are sealed as a text.**  After some
events a caller that does not wait makes a call with bytes, and any events follow.  If the bytes are
no valid UTF-8, the call is refused at once, and but for this answer the run is the one without the
call.  If they are the UTF-8 of a text, the run is the one in which the caller seals the text, but
that the call is written down with the bytes; and whatever the call is served with is an envelope
that opens to the text, under the key in the slot.  Since the events that follow may end anywhere,
this holds at every stage of the runs. -/
theorem bytes_spelled (config : Config) (transport : Transport) (start : Nat)
    (earlier later : List Event) (caller : Nat) (bytes : List UInt8) (salt : Salt)
    (free : ((fresh start).run config transport earlier).1.waiter? caller = none) :
    let before := (fresh start).run config transport earlier
    let call := Call.sealBytes bytes salt
    let ran := (fresh start).run config transport (earlier ++ .call caller call :: later)
    let silent := (fresh start).run config transport (earlier ++ later)
    (¬ bytes.toByteArray.IsValidUTF8 →
        ran.1 = silent.1 ∧ ∃ fault answers, silent.2 = before.2 ++ answers ∧
          ran.2 = before.2 ++
            ⟨caller, call, before.1.now, before.1.now, .error (.encoding fault)⟩ :: answers) ∧
      ∀ text : String, text.toUTF8 = bytes.toByteArray →
        let spoken := (fresh start).run config transport
          (earlier ++ .call caller (.sealText text salt) :: later)
        ran.1.spelled = spoken.1.spelled ∧
          ran.2.map Answer.spelled = spoken.2.map Answer.spelled ∧
          ∀ answer ∈ ran.2, answer.call = call → ∀ product, answer.result = .ok product →
            ∃ material wire, ran.1.slot = .established material ∧ product = .envelope wire ∧
              openText material wire = .ok text := by
  intro before call ran silent
  refine ⟨?_, ?_⟩
  · intro invalid
    obtain ⟨fault, refused⟩ : ∃ fault, call.purpose = .error fault := by
      cases read : Text.Utf8.toString? bytes with
      | ok text => exact absurd (Text.Utf8.isValidUTF8_iff.mpr ⟨text, read⟩) invalid
      | error fault => exact ⟨fault, by rw [Call.purpose, read]⟩
    have stepped := step_call_refused config transport free refused
    have all : ran = _ := run_append (fresh start) earlier (.call caller call :: later)
    have rest : silent = _ := run_append (fresh start) earlier later
    rw [all, rest, run_cons, stepped]
    exact ⟨rfl, fault, _, rfl, rfl⟩
  · intro text spells spoken
    have same : (earlier ++ .call caller call :: later).map Event.spelled =
        (earlier ++ .call caller (.sealText text salt) :: later).map Event.spelled := by
      simp only [List.map_append, List.map_cons, Event.spelled, call,
        Call.spelled_of_toUTF8 spells salt]
    obtain ⟨states, answers⟩ := (fresh start).run_congr_spelled config transport same
    refine ⟨states, answers, ?_⟩
    intro answer member asked product served
    exact run_sealBytes (.fresh start) member asked spells served

/-- While an exchange is under way, one caller comes with an overlong form and another with the two
bytes of a letter: the first is refused and leaves no trace, the second is served when the exchange
ends. -/
theorem bytes_spelled_while_pending :
    let parameters : Parameters := ⟨23, 5, by decide, by decide, by decide⟩
    let config : Config := ⟨KeyPair.withExponent parameters 6, 10⟩
    let transport : Transport := fun _ _ => ⟨some 5, .ok (.accepted "19")⟩
    let salt := Salt.ofRandom 1
    let overlong := Event.call 1 (.sealBytes [0xC0, 0x80] salt)
    let letter := Call.sealBytes [0xC3, 0xA9] salt
    let earlier : List Event := [.call 0 .ensure, .elapse 2]
    let later : List Event := [.elapse 3, .resume 0, .resume 2]
    let ran := (fresh 0).run config transport (earlier ++ .call 2 letter :: later)
    ((fresh 0).run config transport (earlier ++ overlong :: .call 2 letter :: later)).1 = ran.1 ∧
      ∃ answer ∈ ran.2, answer.caller = 2 ∧ answer.call = letter ∧
        ∃ material wire, ran.1.slot = .established material ∧
          answer.result = .ok (.envelope wire) ∧ openText material wire = .ok "é" := by
  intro parameters config transport salt overlong letter earlier later ran
  have invalid : ¬ [0xC0, 0x80].toByteArray.IsValidUTF8 := by decide +kernel
  obtain ⟨refused, -⟩ := bytes_spelled config transport 0 earlier (.call 2 letter :: later) 1
    [0xC0, 0x80] salt rfl
  obtain ⟨-, sealed⟩ := bytes_spelled config transport 0 earlier later 2 [0xC3, 0xA9] salt rfl
  obtain ⟨-, -, opens⟩ := sealed "é" (by decide +kernel)
  have answered : ran.2.map (fun answer => (answer.caller, answer.call, answer.result.isOk)) =
      [(0, .ensure, true), (2, letter, true)] := by decide +kernel
  obtain ⟨answer, member, said⟩ : ∃ answer ∈ ran.2,
      (answer.caller, answer.call, answer.result.isOk) = (2, letter, true) :=
    List.mem_map.mp (answered ▸ List.mem_cons_of_mem _ (List.mem_singleton_self _))
  obtain ⟨mine, asked, success⟩ : answer.caller = 2 ∧ answer.call = letter ∧
      answer.result.isOk = true := by simpa only [Prod.mk.injEq] using said
  refine ⟨(refused invalid).1, answer, member, mine, asked, ?_⟩
  cases result : answer.result with
  | error fault =>
    rw [result] at success
    cases success
  | ok product =>
    obtain ⟨material, wire, held, rfl, opened⟩ := opens answer member asked product result
    exact ⟨material, wire, held, rfl, opened⟩

end State

end SealedCredentials.Channel
