import SealedCredentials.Proofs.Channel.Moves

/-!
# A channel does not look at what it seals

Strike out the texts of all calls (`Call.veil`).  Channels that then look alike (`State.Alike`) hold
the same slot and the same attempts, and the same callers wait for the same attempts.  Calls that
look alike, and looks by callers that wait alike, keep channels alike, and they end alike: at the
same moment, with the same failure or with an envelope each.
-/

set_option autoImplicit false

namespace SealedCredentials.Channel

/-! ## Without the texts -/

/-- A call without the text that it seals. -/
def Call.veil : Call → Call
  | .sealText _ salt => .sealText "" salt
  | call => call

/-- A purpose without the text that is sealed. -/
def Purpose.veil : Purpose → Purpose
  | .presence => .presence
  | .sealing _ salt => .sealing "" salt

/-- What a caller gets, without the envelope. -/
def Product.veil : Product → Product
  | .ready => .ready
  | .envelope _ => .envelope ""

/-- A caller that waits, without the text that it has sealed. -/
def Waiter.veil (waiter : Waiter) : Waiter :=
  { waiter with call := waiter.call.veil, purpose := waiter.purpose.veil }

/-- Callers that wait alike wait for the same attempt since the same moment. -/
theorem Waiter.of_veil {waiter other : Waiter} (alike : waiter.veil = other.veil) :
    waiter.caller = other.caller ∧ waiter.call.veil = other.call.veil ∧
      waiter.purpose.veil = other.purpose.veil ∧ waiter.begun = other.begun ∧
      waiter.attempt = other.attempt := by
  simpa only [veil, mk.injEq] using alike

/-- Calls that look alike are refused alike or serve purposes that look alike. -/
theorem Call.purpose_veil {call other : Call} (alike : call.veil = other.veil) :
    call.purpose.map Purpose.veil = other.purpose.map Purpose.veil := by
  cases call with
  | ensure =>
    cases other <;> cases alike
    rfl
  | sealText text salt =>
    cases other <;> cases alike
    rfl
  | sealBytes bytes salt =>
    cases other <;> cases alike
    rfl

/-- Purposes that look alike are served alike. -/
theorem Purpose.conclude_veil {purpose other : Purpose} (alike : purpose.veil = other.veil)
    (outcome : Outcome) :
    (purpose.conclude outcome).map Product.veil = (other.conclude outcome).map Product.veil := by
  cases outcome with
  | error fault => rfl
  | ok material =>
    cases purpose with
    | presence =>
      cases other <;> cases alike
      rfl
    | sealing text salt =>
      cases other <;> cases alike
      rfl

/-! ## States that look alike -/

/-- Channels that differ only in the texts that callers have sealed. -/
structure State.Alike (state other : State) : Prop where
  now : state.now = other.now
  slot : state.slot = other.slot
  attempts : state.attempts = other.attempts
  waiting : state.waiting.map Waiter.veil = other.waiting.map Waiter.veil

/-- What an operation leads to looks alike: the states do, and the results if there are any. -/
structure State.EndsAlike (done other : State × Option Result) : Prop where
  state : done.1.Alike other.1
  result : done.2.map (·.map Product.veil) = other.2.map (·.map Product.veil)

namespace State.Alike

variable {config : Config} {transport : Transport} {state other : State}

theorem refl (state : State) : state.Alike state := ⟨rfl, rfl, rfl, rfl⟩

/-- The same callers wait alike. -/
theorem waiter? (alike : state.Alike other) (caller : Nat) :
    (state.waiter? caller).map Waiter.veil = (other.waiter? caller).map Waiter.veil := by
  have veiled (each : State) : (each.waiter? caller).map Waiter.veil =
      (each.waiting.map Waiter.veil).find? fun waiter => waiter.caller == caller := by
    rw [List.find?_map]
    rfl
  rw [veiled, veiled, alike.waiting]

/-- A channel that looks like another one is this one with other callers. -/
theorem eq_with_waiting (alike : state.Alike other) :
    other = { state with waiting := other.waiting } := by
  rw [alike.now, alike.slot, alike.attempts]

theorem dismiss (alike : state.Alike other) (caller : Nat) :
    (state.dismiss caller).Alike (other.dismiss caller) where
  now := alike.now
  slot := alike.slot
  attempts := alike.attempts
  waiting := by
    have veiled (each : State) : (each.dismiss caller).waiting.map Waiter.veil =
        (each.waiting.map Waiter.veil).filter fun waiter => waiter.caller != caller := by
      rw [List.filter_map]
      rfl
    rw [veiled, veiled, alike.waiting]

theorem enlist (alike : state.Alike other) {waiter another : Waiter}
    (veiled : waiter.veil = another.veil) :
    ({ state with waiting := state.waiting ++ [waiter] } : State).Alike
      { other with waiting := other.waiting ++ [another] } where
  now := alike.now
  slot := alike.slot
  attempts := alike.attempts
  waiting := by
    simp only [List.map_append, List.map_cons, List.map_nil, alike.waiting, veiled]

theorem elapse (alike : state.Alike other) (span : Nat) :
    ({ state with now := state.now + span } : State).Alike
      { other with now := other.now + span } where
  now := congrArg (· + span) alike.now
  slot := alike.slot
  attempts := alike.attempts
  waiting := alike.waiting

theorem start (alike : state.Alike other) (config : Config) (transport : Transport) :
    (state.start config transport).Alike (other.start config transport) := by
  rw [alike.eq_with_waiting]
  exact ⟨rfl, rfl, rfl, alike.waiting⟩

theorem settle (alike : state.Alike other) (number : Nat) (outcome : Outcome) :
    (state.settle number outcome).Alike (other.settle number outcome) where
  now := by rw [settle_now, settle_now, alike.now]
  attempts := by rw [settle_attempts, settle_attempts, alike.attempts]
  waiting := by rw [settle_waiting, settle_waiting, alike.waiting]
  slot := by
    unfold State.settle
    simp only [alike.slot]
    split
    · cases outcome <;> rfl
    · rfl

/-- A look shows the same in both. -/
theorem look (alike : state.Alike other) (config : Config) (number : Nat) :
    (state.look config number).1.Alike (other.look config number).1 ∧
      (state.look config number).2 = (other.look config number).2 := by
  unfold State.look
  rw [alike.attempts, alike.now]
  cases other.attempts[number]? with
  | none => exact ⟨alike, rfl⟩
  | some attempt =>
    dsimp only
    cases attempt.look config other.now with
    | none => exact ⟨alike, rfl⟩
    | some outcome => exact ⟨alike.settle number outcome, rfl⟩

variable {waiter another : Waiter}

theorem join (alike : state.Alike other) (config : Config) (veiled : waiter.veil = another.veil) :
    EndsAlike (state.join config waiter) (other.join config another) := by
  obtain ⟨-, -, aims, -, place⟩ := Waiter.of_veil veiled
  obtain ⟨after, shown⟩ := alike.look config another.attempt
  unfold State.join
  rw [place]
  generalize state.look config another.attempt = first at after shown ⊢
  generalize other.look config another.attempt = second at after shown ⊢
  obtain ⟨seen, outcome⟩ := first
  obtain ⟨seen', outcome'⟩ := second
  cases shown
  cases outcome with
  | none => exact ⟨after.enlist veiled, rfl⟩
  | some outcome => exact ⟨after, congrArg some (Purpose.conclude_veil aims outcome)⟩

theorem resume (alike : state.Alike other) (config : Config)
    (veiled : waiter.veil = another.veil) :
    EndsAlike (state.resume config waiter) (other.resume config another) := by
  obtain ⟨mine, -, aims, -, place⟩ := Waiter.of_veil veiled
  obtain ⟨after, shown⟩ := alike.look config another.attempt
  unfold State.resume
  rw [place, mine]
  generalize state.look config another.attempt = first at after shown ⊢
  generalize other.look config another.attempt = second at after shown ⊢
  obtain ⟨seen, outcome⟩ := first
  obtain ⟨seen', outcome'⟩ := second
  cases shown
  cases outcome with
  | none => exact ⟨after, rfl⟩
  | some outcome =>
    exact ⟨after.dismiss another.caller, congrArg some (Purpose.conclude_veil aims outcome)⟩

theorem demand (alike : state.Alike other) (config : Config) (transport : Transport) (caller : Nat)
    {call call' : Call} {purpose purpose' : Purpose} (veiled : call.veil = call'.veil)
    (aims : purpose.veil = purpose'.veil) :
    EndsAlike (state.demand config transport caller call purpose)
      (other.demand config transport caller call' purpose') := by
  have seated (number : Nat) : Waiter.veil ⟨caller, call, purpose, state.now, number⟩ =
      Waiter.veil ⟨caller, call', purpose', other.now, number⟩ := by
    rw [Waiter.veil, Waiter.veil, veiled, aims, alike.now]
  unfold State.demand
  rw [alike.slot]
  cases other.slot with
  | established material =>
    exact ⟨alike, congrArg some (Purpose.conclude_veil aims (.ok material))⟩
  | pending number => exact alike.join config (seated number)
  | idle =>
    simp only [alike.attempts]
    exact (alike.start config transport).join config (seated other.attempts.length)

/-- **Calls that look alike keep channels alike and end alike.** -/
theorem call (alike : state.Alike other) (config : Config) (transport : Transport) (caller : Nat)
    {call call' : Call} (veiled : call.veil = call'.veil) :
    EndsAlike (state.call config transport caller call)
      (other.call config transport caller call') := by
  have busy : (state.waiter? caller).isSome = (other.waiter? caller).isSome := by
    rw [← Option.isSome_map, alike.waiter? caller, Option.isSome_map]
  have needed := Call.purpose_veil veiled
  unfold State.call
  rw [busy]
  split
  · exact ⟨alike, rfl⟩
  · generalize call.purpose = first at needed ⊢
    generalize call'.purpose = second at needed ⊢
    rcases first with fault | purpose
    · rcases second with fault' | purpose'
      · cases needed
        exact ⟨alike, rfl⟩
      · cases needed
    · rcases second with fault' | purpose'
      · cases needed
      · exact alike.demand config transport caller veiled (Except.ok.inj needed)

end State.Alike

end SealedCredentials.Channel
