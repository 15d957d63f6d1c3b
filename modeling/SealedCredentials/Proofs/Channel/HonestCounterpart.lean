import SealedCredentials.Channel.Counterpart
import SealedCredentials.Proofs.Channel.Provenance

/-!
# A channel with an honest counterpart

The other end holds a key pair over the same parameters and answers every request at once: with
its public value if it can use the one that came, with some error if not (`Counterpart.Plays`).
Then the first call on the channel decides.  It leads to a key exactly when both public values
are in range; if it does, both ends hold the same material, and whatever is sealed from then on
opens at the other end (`State.honest`).
-/

set_option autoImplicit false

namespace SealedCredentials.Channel

open SealedCredentials.Agreement SealedCredentials.Arithmetic SealedCredentials.Envelope

variable {parameters : Parameters} {exponent peerExponent limit : Nat} {transport : Transport}

/-! ## The other end -/

namespace Counterpart

/-- The counterpart is at the other end: it answers every request at once, with its public value
if it can derive key material from the request and with some error otherwise. -/
structure Plays (pair : KeyPair) (transport : Transport) : Prop where
  prompt : ∀ number request, (transport number request).delay = some 0
  accepts : ∀ number request held, material pair request = .ok held →
    (transport number request).answer = .ok (.accepted pair.publicText)
  refuses : ∀ number request fault, material pair request = .error fault →
    ∃ cause, (transport number request).answer = .error cause

/-- The counterpart that says what it could not use plays by the rules. -/
theorem plays_transport (pair : KeyPair) : Plays pair (Counterpart.transport pair) where
  prompt := fun _ _ => rfl
  accepts := by
    intro number request held derived
    simp only [Counterpart.transport, answer, derived]
  refuses := by
    intro number request fault failed
    simp only [Counterpart.transport, answer, failed]
    exact ⟨_, rfl⟩

/-- What the counterpart derives from a public value of the same parameters. -/
theorem material_eq_ok_iff (parameters : Parameters) (exponent peerExponent : Nat)
    {held : Material} :
    material (KeyPair.withExponent parameters peerExponent)
        ⟨(KeyPair.withExponent parameters exponent).publicText⟩ = .ok held ↔
      parameters.Usable exponent ∧ held =
        .ofSecret ⟨parameters.generator ^ (exponent * peerExponent) % parameters.modulus⟩ := by
  rw [material]
  constructor
  · intro derived
    cases shared : (KeyPair.withExponent parameters peerExponent).shareText
        (KeyPair.withExponent parameters exponent).publicText with
    | error fault =>
      rw [shared] at derived
      cases derived
    | ok secret =>
      rw [shared] at derived
      cases derived
      obtain ⟨bounds, rfl⟩ := (KeyPair.shareText_publicText exponent).mp shared
      exact ⟨bounds, rfl⟩
  · rintro ⟨bounds, rfl⟩
    rw [(KeyPair.shareText_publicText exponent).mpr ⟨bounds, rfl⟩]

end Counterpart

/-- An exchange with the counterpart leads to a key exactly when both public values are in
range. -/
theorem Config.conclude_honest
    (plays : Counterpart.Plays (KeyPair.withExponent parameters peerExponent) transport)
    (exponent limit number : Nat) {held : Material} :
    let config : Config := ⟨KeyPair.withExponent parameters exponent, limit⟩
    config.conclude (transport number config.request).answer = .ok held ↔
      (parameters.Usable exponent ∧ parameters.Usable peerExponent) ∧ held =
        .ofSecret ⟨parameters.generator ^ (exponent * peerExponent) % parameters.modulus⟩ := by
  intro config
  cases derived : Counterpart.material (KeyPair.withExponent parameters peerExponent)
      config.request with
  | error fault =>
    obtain ⟨cause, refused⟩ := plays.refuses number config.request fault derived
    rw [refused]
    constructor
    · intro impossible
      cases impossible
    · rintro ⟨⟨usable, -⟩, -⟩
      have accepted :=
        (Counterpart.material_eq_ok_iff parameters exponent peerExponent).mpr ⟨usable, rfl⟩
      cases accepted.symm.trans derived
  | ok theirs =>
    obtain ⟨usable, -⟩ :=
      (Counterpart.material_eq_ok_iff parameters exponent peerExponent).mp derived
    rw [plays.accepts number config.request theirs derived, Config.conclude_eq_ok_iff]
    constructor
    · rintro ⟨serverPublic, secret, accepted, shared, rfl⟩
      cases accepted
      obtain ⟨peerUsable, rfl⟩ := (KeyPair.shareText_publicText peerExponent).mp shared
      exact ⟨⟨usable, peerUsable⟩, by rw [Nat.mul_comm]⟩
    · rintro ⟨⟨-, peerUsable⟩, rfl⟩
      refine ⟨_, _, rfl, (KeyPair.shareText_publicText peerExponent).mpr ⟨peerUsable, rfl⟩, ?_⟩
      rw [Nat.mul_comm]

/-! ## The first call -/

namespace State

/-- The first call on a channel with the counterpart at the other end. -/
theorem step_honest {config : Config} {server : KeyPair}
    (plays : Counterpart.Plays server transport) {outcome : Outcome}
    (concluded : config.conclude (transport 0 config.request).answer = outcome)
    (start caller : Nat) {call : Call} {purpose : Purpose} (needed : call.purpose = .ok purpose) :
    (fresh start).step config transport (.call caller call) =
      (((fresh start).start config transport).settle 0 outcome,
        some ⟨caller, call, start, start, purpose.conclude outcome⟩) := by
  have exchange : transport (fresh start).attempts.length config.request =
      ⟨some 0, (transport 0 config.request).answer⟩ := by
    rw [← plays.prompt 0 config.request]
    rfl
  rw [step_call_prompt rfl rfl needed exchange, concluded]
  rfl

/-- A first call that comes to nothing leaves the channel without a key. -/
theorem step_honest_error {config : Config} {server : KeyPair}
    (plays : Counterpart.Plays server transport) {fault : HandshakeFault}
    (concluded : config.conclude (transport 0 config.request).answer = .error fault)
    (start caller : Nat) {call : Call} {purpose : Purpose} (needed : call.purpose = .ok purpose) :
    ((fresh start).step config transport (.call caller call)).1.isEstablished = false ∧
      ((fresh start).step config transport (.call caller call)).2 =
        some ⟨caller, call, start, start, .error (.handshake fault)⟩ := by
  rw [step_honest plays concluded start caller needed]
  refine ⟨?_, rfl⟩
  rw [isEstablished, settle_slot_error rfl]

/-- A first call that agrees on a key leaves it in the slot and nobody waiting. -/
theorem step_honest_ok {config : Config} {server : KeyPair}
    (plays : Counterpart.Plays server transport) {material : Material}
    (concluded : config.conclude (transport 0 config.request).answer = .ok material)
    (start caller : Nat) {call : Call} {purpose : Purpose} (needed : call.purpose = .ok purpose) :
    ((fresh start).step config transport (.call caller call)).1.slot = .established material ∧
      ((fresh start).step config transport (.call caller call)).1.waiting = [] ∧
      ((fresh start).step config transport (.call caller call)).2 =
        some ⟨caller, call, start, start, .ok (purpose.serve material)⟩ := by
  rw [step_honest plays concluded start caller needed]
  exact ⟨settle_slot_ok rfl material, settle_waiting _ 0 _, rfl⟩

/-- With a key and nobody waiting, a text is sealed at once, whatever happens before. -/
theorem step_seal_established {config : Config} {state : State}
    (invariant : Invariant config transport state) {material : Material}
    (held : state.slot = .established material) (nobody : state.waiting = [])
    (later : List Event) (other : Nat) (text : String) (salt : Salt) :
    let final := (state.run config transport later).1
    ∃ wire, (final.step config transport (.call other (.sealText text salt))).2 =
        some ⟨other, .sealText text salt, final.now, final.now, .ok (.envelope wire)⟩ ∧
      openText material wire = .ok text := by
  intro final
  have free : final.waiter? other = none := by
    unfold waiter?
    rw [run_waiting_established invariant held nobody later, List.find?_nil]
  refine ⟨sealText material text salt, ?_, openText_sealText material text salt⟩
  rw [step_call_established (invariant.run_established held later).1 free rfl]
  rfl

/-- **A channel with an honest counterpart.**  Both key pairs exist.  The first call leads to a
key exactly when both public values are in range, and fails otherwise.  With a key, both ends
hold the digest of the generator's power of the product of the exponents; later calls for an
envelope are answered at once; and every envelope of the whole run opens at the other end to
what its caller gave. -/
theorem honest (parameters : Parameters) {exponent peerExponent : Nat}
    (inside : 1 ≤ exponent ∧ exponent ≤ parameters.modulus - 2)
    (peerInside : 1 ≤ peerExponent ∧ peerExponent ≤ parameters.modulus - 2) :
    ∃ client server, KeyPair.ofExponent parameters exponent = .ok client ∧
      KeyPair.ofExponent parameters peerExponent = .ok server ∧
      ∀ transport, Counterpart.Plays server transport → ∀ (limit start caller : Nat) (call : Call)
        (purpose : Purpose), call.purpose = .ok purpose →
        let config : Config := ⟨client, limit⟩
        let first := (fresh start).step config transport (.call caller call)
        (first.1.isEstablished = true ↔
            parameters.Usable exponent ∧ parameters.Usable peerExponent) ∧
          (first.1.isEstablished = false → ∃ fault,
            first.2 = some ⟨caller, call, start, start, .error (.handshake fault)⟩) ∧
          (first.1.isEstablished = true → ∃ material,
            first.1.slot = .established material ∧
            Counterpart.material server config.request = .ok material ∧
            material.bytes = Digest.Sha256.hash (Text.Utf8.ofString (Decimal.ofNat
              (parameters.generator ^ (exponent * peerExponent) % parameters.modulus))) ∧
            first.2 = some ⟨caller, call, start, start, .ok (purpose.serve material)⟩ ∧
            ∀ later : List Event,
              let final := (first.1.run config transport later).1
              (∀ (other : Nat) (text : String) (salt : Salt), ∃ wire,
                (final.step config transport (.call other (.sealText text salt))).2 =
                  some ⟨other, .sealText text salt, final.now, final.now,
                    .ok (.envelope wire)⟩ ∧
                openText material wire = .ok text) ∧
              ∀ answer ∈ ((fresh start).run config transport (.call caller call :: later)).2,
                ∀ wire, answer.result = .ok (.envelope wire) →
                  ∃ text, openText material wire = .ok text ∧
                    answer.call.plaintext = some (Text.Utf8.ofString text)) := by
  refine ⟨_, _, KeyPair.ofExponent_eq_ok_iff.mpr ⟨inside, rfl⟩,
    KeyPair.ofExponent_eq_ok_iff.mpr ⟨peerInside, rfl⟩, ?_⟩
  intro transport plays limit start caller call purpose needed config first
  have decides : ∀ held, config.conclude (transport 0 config.request).answer = .ok held ↔ _ :=
    fun held => Config.conclude_honest plays exponent limit 0
  cases concluded : config.conclude (transport 0 config.request).answer with
  | error fault =>
    obtain ⟨unestablished, failed⟩ := step_honest_error plays concluded start caller needed
    refine ⟨?_, fun _ => ⟨fault, failed⟩, ?_⟩
    · constructor
      · intro established
        cases unestablished.symm.trans established
      · intro usable
        cases ((decides _).mpr ⟨usable, rfl⟩).symm.trans concluded
    · intro established
      cases unestablished.symm.trans established
  | ok material =>
    obtain ⟨held, nobody, served⟩ := step_honest_ok plays concluded start caller needed
    obtain ⟨usable, same⟩ := (decides material).mp concluded
    have established : first.1.isEstablished = true := by
      rw [isEstablished, held]
    refine ⟨⟨fun _ => usable, fun _ => established⟩, ?_, ?_⟩
    · intro unestablished
      cases established.symm.trans unestablished
    · intro _
      have derived := (Counterpart.material_eq_ok_iff parameters exponent peerExponent).mpr
        ⟨usable.1, same⟩
      refine ⟨material, held, derived, congrArg Material.bytes same, served, ?_⟩
      intro later final
      have invariant : Invariant config transport first.1 := (Invariant.fresh start).step _
      refine ⟨step_seal_established invariant held nobody later, ?_⟩
      intro answer member wire given
      have kept : ((fresh start).run config transport (.call caller call :: later)).1.slot = _ :=
        (invariant.run_established held later).1
      exact run_envelope_opens (.fresh start) kept member given

/-- Modulus 23 and generator 5: the exponents 6 and 15 agree on the secret 2, while the exponent
11, whose public value is 22, gets nowhere. -/
theorem honest_modulo_23 :
    let parameters : Parameters := ⟨23, 5, by decide, by decide, by decide⟩
    let server := KeyPair.withExponent parameters 15
    let transport := Counterpart.transport server
    let agreeing : Config := ⟨KeyPair.withExponent parameters 6, 0⟩
    let trivial : Config := ⟨KeyPair.withExponent parameters 11, 0⟩
    (∃ material,
        ((fresh 0).step agreeing transport (.call 0 .ensure)).1.slot = .established material ∧
        Counterpart.material server agreeing.request = .ok material ∧
        material.bytes = Digest.Sha256.hash (Text.Utf8.ofString (Decimal.ofNat 2))) ∧
      ((fresh 0).step trivial transport (.call 0 .ensure)).1.isEstablished = false ∧
      ∃ fault, ((fresh 0).step trivial transport (.call 0 .ensure)).2 =
        some ⟨0, .ensure, 0, 0, .error (.handshake fault)⟩ := by
  intro parameters server transport agreeing trivial
  constructor
  · obtain ⟨client, other, madeClient, madeServer, all⟩ :=
      @honest parameters 6 15 (by decide) (by decide)
    obtain ⟨-, rfl⟩ := KeyPair.ofExponent_eq_ok_iff.mp madeClient
    obtain ⟨-, rfl⟩ := KeyPair.ofExponent_eq_ok_iff.mp madeServer
    obtain ⟨decides, -, keyed⟩ :=
      all transport (Counterpart.plays_transport server) 0 0 0 .ensure .presence rfl
    have usable : parameters.Usable 6 ∧ parameters.Usable 15 := by
      unfold Parameters.Usable
      decide
    obtain ⟨material, held, derived, digest, -, -⟩ := keyed (decides.mpr usable)
    rw [show parameters.generator ^ (6 * 15) % parameters.modulus = 2 by decide] at digest
    exact ⟨material, held, derived, digest⟩
  · obtain ⟨client, other, madeClient, madeServer, all⟩ :=
      @honest parameters 11 15 (by decide) (by decide)
    obtain ⟨-, rfl⟩ := KeyPair.ofExponent_eq_ok_iff.mp madeClient
    obtain ⟨-, rfl⟩ := KeyPair.ofExponent_eq_ok_iff.mp madeServer
    obtain ⟨decides, failed, -⟩ :=
      all transport (Counterpart.plays_transport server) 0 0 0 .ensure .presence rfl
    have unusable : ¬(parameters.Usable 11 ∧ parameters.Usable 15) := by
      unfold Parameters.Usable
      decide
    have unestablished := Bool.eq_false_iff.mpr fun established => unusable (decides.mp established)
    exact ⟨unestablished, failed unestablished⟩

end State

end SealedCredentials.Channel
