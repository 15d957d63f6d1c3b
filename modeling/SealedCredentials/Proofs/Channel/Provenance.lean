import SealedCredentials.Proofs.Agreement.KeyPair
import SealedCredentials.Proofs.Channel.Answers
import SealedCredentials.Proofs.Envelope.Sealing

/-!
# Where the key comes from

Nothing is assumed of the other end here: it may answer anything, late or never.  Still the slot
holds a key only if an attempt received an acceptance whose public value spells a number in
range, and the key is the digest of that number's power by the channel's own exponent
(`State.Received`).  Every envelope that was ever handed out opens under that one key, to what
its caller gave (`State.provenance`).
-/

set_option autoImplicit false

namespace SealedCredentials.Channel

open SealedCredentials.Agreement SealedCredentials.Arithmetic SealedCredentials.Envelope

variable {transport : Transport}

/-! ## Texts of calls -/

/-- The bytes that a caller wants sealed, if it wants any. -/
def Call.plaintext : Call → Option (List UInt8)
  | .ensure => none
  | .sealText text _ => some (Text.Utf8.ofString text)
  | .sealBytes bytes _ => some bytes

/-- What is sealed for a call spells the bytes that were given. -/
theorem Call.plaintext_of_purpose {call : Call} {text : String} {salt : Salt}
    (needed : call.purpose = .ok (.sealing text salt)) :
    call.plaintext = some (Text.Utf8.ofString text) := by
  cases call with
  | ensure => cases needed
  | sealText given drawn =>
    cases needed
    rfl
  | sealBytes bytes drawn =>
    cases read : Text.Utf8.toString? bytes with
    | error fault =>
      rw [Call.purpose, read] at needed
      cases needed
    | ok spelled =>
      rw [Call.purpose, read] at needed
      cases needed
      rw [Call.plaintext, Text.Utf8.ofString_of_toString? read]

/-- An envelope is only handed out for a text and with a key. -/
theorem Purpose.conclude_eq_envelope {purpose : Purpose} {outcome : Outcome} {wire : String}
    (said : purpose.conclude outcome = .ok (.envelope wire)) :
    ∃ text salt material, purpose = .sealing text salt ∧ outcome = .ok material ∧
      wire = sealText material text salt := by
  cases outcome with
  | error fault => cases said
  | ok material =>
    cases purpose with
    | presence => cases said
    | sealing text salt =>
      cases said
      exact ⟨text, salt, material, rfl, rfl, rfl⟩

/-- Every envelope that a run hands out was sealed with the key of an attempt that succeeded, and
opens under that key to what its caller gave. -/
theorem State.run_envelope {config : Config} {state : State}
    (invariant : Invariant config transport state) {events : List Event} {answer : Answer}
    (member : answer ∈ (state.run config transport events).2) {wire : String}
    (given : answer.result = .ok (.envelope wire)) :
    ∃ (number : Nat) (attempt : Attempt) (material : Material) (text : String),
      (state.run config transport events).1.attempts[number]? = some attempt ∧
      attempt.outcome = some (.ok material) ∧ openText material wire = .ok text ∧
      answer.call.plaintext = some (Text.Utf8.ofString text) := by
  cases run_explained invariant events answer member with
  | refused fault unreadable said =>
    rw [said] at given
    cases given
  | concluded number attempt purpose outcome found ended needed said =>
    rw [said] at given
    obtain ⟨text, salt, material, rfl, rfl, rfl⟩ := Purpose.conclude_eq_envelope given
    exact ⟨number, attempt, material, text, found, ended, openText_sealText material text salt,
      Call.plaintext_of_purpose needed⟩

/-- With a key in the slot at the end of a run, every envelope of the run opens under it. -/
theorem State.run_envelope_opens {config : Config} {state : State}
    (invariant : Invariant config transport state) {events : List Event} {material : Material}
    (held : (state.run config transport events).1.slot = .established material) {answer : Answer}
    (member : answer ∈ (state.run config transport events).2) {wire : String}
    (given : answer.result = .ok (.envelope wire)) :
    ∃ text, openText material wire = .ok text ∧
      answer.call.plaintext = some (Text.Utf8.ofString text) := by
  obtain ⟨number, attempt, sealing, text, found, succeeded, opens, spelled⟩ :=
    run_envelope invariant member given
  obtain ⟨faults, ledger⟩ := (invariant.moves (run_moves state events)).ledger
  have same : sealing = material :=
    Slot.established.inj ((ledger.established_of_ok found succeeded).symm.trans held)
  rw [← same]
  exact ⟨text, opens, spelled⟩

/-! ## Replies -/

/-- Some attempt received an acceptance whose public value spells a number in range, and ended
with the digest of that number's power. -/
def State.Received (parameters : Parameters) (exponent : Nat) (state : State)
    (material : Material) : Prop :=
  ∃ attempt ∈ state.attempts, ∃ serverPublic value,
    attempt.answered state.now = true ∧
      attempt.exchange.answer = .ok (.accepted serverPublic) ∧
      attempt.outcome = some (.ok material) ∧
      Decimal.parse serverPublic = .ok value ∧
      (2 ≤ value ∧ value ≤ parameters.modulus - 2) ∧
      material.bytes = Digest.Sha256.hash
        (Text.Utf8.ofString (Decimal.ofNat (value ^ exponent % parameters.modulus)))

variable {parameters : Parameters} {exponent limit : Nat}

/-- A successful end was received. -/
theorem Invariant.received {state : State}
    (invariant : Invariant ⟨KeyPair.withExponent parameters exponent, limit⟩ transport state)
    {number : Nat} {attempt : Attempt} (found : state.attempts[number]? = some attempt)
    {material : Material} (succeeded : attempt.outcome = some (.ok material)) :
    state.Received parameters exponent material := by
  rcases (invariant.genuine number attempt found).explained _ succeeded with
    ⟨answered, concluded⟩ | ⟨-, expired⟩
  · obtain ⟨serverPublic, secret, accepted, shared, same⟩ :=
      Config.conclude_eq_ok_iff.mp concluded.symm
    obtain ⟨value, read, bounds, power⟩ := KeyPair.shareText_eq_ok_iff.mp shared
    refine ⟨attempt, List.mem_of_getElem? found, serverPublic, value, answered, accepted,
      succeeded, read, bounds, ?_⟩
    rw [same, power]
    rfl
  · cases expired

/-- **Key provenance.**  Whatever the other end answers and however events interleave: a key in
the slot was received; every request carried the generator's power; every envelope was asked for
by the caller that got it, was handed out only because a key had been received, and opens under
the key in the slot to what that caller gave. -/
theorem State.provenance (parameters : Parameters) (exponent limit : Nat) (transport : Transport)
    (start : Nat) (events : List Event) :
    let config : Config := ⟨KeyPair.withExponent parameters exponent, limit⟩
    let final := ((fresh start).run config transport events).1
    let answers := ((fresh start).run config transport events).2
    (∀ material, final.slot = .established material →
        final.Received parameters exponent material) ∧
      (∀ attempt ∈ final.attempts, attempt.request.clientPublic =
        Decimal.ofNat (parameters.generator ^ exponent % parameters.modulus)) ∧
      ∀ answer ∈ answers, ∀ wire, answer.result = .ok (.envelope wire) →
        .call answer.caller answer.call ∈ events ∧
          ∃ material text, final.Received parameters exponent material ∧
            final.slot = .established material ∧ openText material wire = .ok text ∧
            answer.call.plaintext = some (Text.Utf8.ofString text) := by
  intro config final answers
  have invariant : Invariant config transport final := .run start events
  obtain ⟨faults, ledger⟩ := invariant.ledger
  refine ⟨?_, ?_, ?_⟩
  · intro material established
    obtain ⟨attempt, found, succeeded⟩ := ledger.last_of_established established
    exact invariant.received found succeeded
  · intro attempt member
    obtain ⟨number, found⟩ := List.mem_iff_getElem?.mp member
    rw [(invariant.genuine number attempt found).request]
    exact KeyPair.publicText_withExponent parameters exponent
  · intro answer member wire given
    constructor
    · rcases run_asked (fresh start) events answer member with asked | ⟨waiter, waits, -, -⟩
      · exact asked
      · cases waits
    · obtain ⟨number, attempt, material, text, found, succeeded, opens, spelled⟩ :=
        run_envelope (.fresh start) member given
      exact ⟨material, text, invariant.received found succeeded,
        ledger.established_of_ok found succeeded, opens, spelled⟩

/-- A public value with blanks and zeros in front leads to the key of the number it spells. -/
theorem State.provenance_of_padded :
    let parameters := Group.legacy.parameters
    let config : Config := ⟨KeyPair.withExponent parameters 5, 10⟩
    let transport : Transport := fun _ _ => ⟨some 0, .ok (.accepted " 007\n")⟩
    let call : Call := .sealBytes [104, 105] (Salt.ofRandom 1)
    let final := ((fresh 0).run config transport [.call 0 call]).1
    ∃ material wire text, final.slot = .established material ∧
      final.Received parameters 5 material ∧ openText material wire = .ok text ∧
      Text.Utf8.ofString text = [104, 105] := by
  intro parameters config transport call final
  let material : Material := .ofSecret ⟨7 ^ 5 % parameters.modulus⟩
  have read : Decimal.parse " 007\n" = .ok 7 := by decide +kernel
  have shared : config.pair.shareText " 007\n" = .ok ⟨7 ^ 5 % parameters.modulus⟩ :=
    KeyPair.shareText_eq_ok_iff.mpr ⟨7, read, by decide, rfl⟩
  have concluded : config.conclude (.ok (.accepted " 007\n")) = .ok material :=
    Config.conclude_eq_ok_iff.mpr ⟨_, _, rfl, shared, rfl⟩
  have needed : call.purpose = .ok (.sealing "hi" (Salt.ofRandom 1)) := by decide +kernel
  have ran : (fresh 0).run config transport [.call 0 call] =
      (((fresh 0).start config transport).settle 0 (.ok material),
        [⟨0, call, 0, 0, .ok (.envelope (sealText material "hi" (Salt.ofRandom 1)))⟩]) := by
    rw [run_cons, run_nil, step_call_prompt rfl rfl needed rfl, concluded]
    rfl
  obtain ⟨held, -, sealed⟩ := State.provenance parameters 5 10 transport 0 [.call 0 call]
  have established : final.slot = .established material := by
    change ((fresh 0).run config transport [.call 0 call]).1.slot = _
    rw [ran]
    exact settle_slot_ok rfl material
  obtain ⟨-, other, text, -, same, opens, spelled⟩ :=
    sealed _ (by rw [ran]; exact List.mem_singleton_self _) _ rfl
  rw [established] at same
  cases same
  exact ⟨material, _, text, established, held material established, opens,
    (Option.some.inj spelled).symm⟩

end SealedCredentials.Channel
