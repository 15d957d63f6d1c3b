import SealedCredentials.Proofs.Agreement.Generation
import SealedCredentials.Proofs.Channel.HonestCounterpart

/-!
# A channel around a drawn pair

A channel keeps its pair for all its attempts.  If the public value of the pair is in range, the
first call leads to a key with every counterpart that plays by the rules and has a public value in
range itself.  If it is not, every counterpart refuses it, in every attempt, so however often the
channel is called there is never a key (`State.run_of_futile`).

Drawing a pair does not look at the public value.  `drawn_pair` says which pairs can be drawn, and
for which of them a channel is of use: with a prime modulus and a primitive root, for all but the
one whose exponent is half of the modulus less one.
-/

set_option autoImplicit false

namespace SealedCredentials.Channel

open SealedCredentials.Agreement SealedCredentials.Arithmetic SealedCredentials.Envelope

/-! ## Channels that always agree and channels that never do -/

namespace Config

/-- The first call that needs a key gets it at once. -/
def AgreesAtOnce (config : Config) (transport : Transport) : Prop :=
  ∀ (start caller : Nat) (call : Call) (purpose : Purpose), call.purpose = .ok purpose →
    ∃ material,
      let first := (State.fresh start).step config transport (.call caller call)
      first.1.slot = .established material ∧
        first.2 = some ⟨caller, call, start, start, .ok (purpose.serve material)⟩

/-- Whatever happens, there is no key, and every answer is a fault. -/
def NeverAgrees (config : Config) (transport : Transport) : Prop :=
  ∀ (start : Nat) (events : List Event),
    let run := (State.fresh start).run config transport events
    run.1.isEstablished = false ∧ ∀ answer ∈ run.2, ∃ fault, answer.result = .error fault

/-- No exchange leads to a key. -/
def Futile (config : Config) (transport : Transport) : Prop :=
  ∀ number material, config.conclude (transport number config.request).answer ≠ .ok material

end Config

/-! ## Futile exchanges -/

namespace State

variable {config : Config} {transport : Transport}

/-- An attempt does not end with a key if no exchange leads to one. -/
theorem outcome_of_futile {state : State} (futile : config.Futile transport)
    (invariant : Invariant config transport state) {number : Nat} {attempt : Attempt}
    (found : state.attempts[number]? = some attempt) (material : Material) :
    attempt.outcome ≠ some (.ok material) := by
  intro succeeded
  have genuine := invariant.genuine number attempt found
  rcases genuine.explained _ succeeded with ⟨-, concluded⟩ | ⟨-, expired⟩
  · rw [genuine.exchange] at concluded
    exact futile number material concluded.symm
  · cases expired

/-- **A channel whose exchanges lead to no key never agrees on one.** -/
theorem run_of_futile (futile : config.Futile transport) : config.NeverAgrees transport := by
  intro start events run
  have invariant : Invariant config transport run.1 := .run start events
  constructor
  · cases held : run.1.slot with
    | idle => rw [isEstablished, held]
    | pending number => rw [isEstablished, held]
    | established material =>
      obtain ⟨faults, ledger⟩ := invariant.ledger
      obtain ⟨attempt, found, succeeded⟩ := ledger.last_of_established held
      exact absurd succeeded (outcome_of_futile futile invariant found material)
  · intro answer member
    cases run_explained (.fresh start) events answer member with
    | refused fault unreadable said => exact ⟨_, said⟩
    | concluded number attempt purpose outcome found ended needed said =>
      cases outcome with
      | ok material => exact absurd ended (outcome_of_futile futile invariant found material)
      | error fault => exact ⟨_, said⟩

end State

/-! ## Honest counterparts -/

namespace Config

variable {parameters : Parameters} {exponent peer : Nat} {transport : Transport}

/-- A channel whose public value is of no use gets nothing from an honest counterpart. -/
theorem futile_of_not_usable
    (plays : Counterpart.Plays (KeyPair.withExponent parameters peer) transport)
    (useless : ¬ parameters.Usable exponent) (limit : Nat) :
    Futile ⟨KeyPair.withExponent parameters exponent, limit⟩ transport := by
  intro number material concluded
  exact useless ((conclude_honest plays exponent limit number).mp concluded).1.1

/-- With public values of use on both sides the first call leads to a key. -/
theorem agreesAtOnce_of_usable
    (plays : Counterpart.Plays (KeyPair.withExponent parameters peer) transport)
    (usable : parameters.Usable exponent) (peerUsable : parameters.Usable peer) (limit : Nat) :
    AgreesAtOnce ⟨KeyPair.withExponent parameters exponent, limit⟩ transport := by
  intro start caller call purpose needed
  have concluded := (conclude_honest plays exponent limit 0).mpr ⟨⟨usable, peerUsable⟩, rfl⟩
  obtain ⟨held, -, served⟩ := State.step_honest_ok plays concluded start caller needed
  exact ⟨_, held, served⟩

end Config

/-! ## Drawn pairs -/

/-- **Which drawn pairs are of use.**  The pairs that can be drawn are those with an exponent from
two to the modulus less two, whatever their public values.  The public value of such a pair is in
range exactly if the generator's power is neither zero nor one nor the modulus less one.  With a
prime modulus and a primitive root this is so for every exponent but half of the modulus less one,
which can be drawn.

If the public value is in range, every counterpart accepts it, and a channel around the pair agrees
on a key in its first call, provided that the counterpart's own public value is in range.  If it is
not, every counterpart refuses it, and the channel never agrees on a key, however often it is
called. -/
theorem drawn_pair (parameters : Parameters) :
    let half := (parameters.modulus - 1) / 2
    (∀ pair, (∃ random, KeyPair.generate parameters random = .ok pair) ↔
        ∃ exponent, (2 ≤ exponent ∧ exponent ≤ parameters.modulus - 2) ∧
          pair = KeyPair.withExponent parameters exponent) ∧
      (2 ≤ half ∧ half ≤ parameters.modulus - 2) ∧
      ∀ random pair, KeyPair.generate parameters random = .ok pair →
        (parameters.isPublic pair.publicValue = true ↔
          ¬ parameters.IsTrivial (parameters.generator ^ pair.exponent % parameters.modulus)) ∧
        (parameters.modulus.Prime →
          IsPrimitiveRoot (parameters.generator : ZMod parameters.modulus)
            (parameters.modulus - 1) →
          (parameters.isPublic pair.publicValue = true ↔ pair.exponent ≠ half)) ∧
        ∀ peer, let server := KeyPair.withExponent parameters peer
          (parameters.isPublic pair.publicValue = true →
            (∃ secret, server.shareText pair.publicText = .ok secret) ∧
            ∀ transport limit, Counterpart.Plays server transport →
              parameters.isPublic server.publicValue = true →
              Config.AgreesAtOnce ⟨pair, limit⟩ transport) ∧
          (parameters.isPublic pair.publicValue = false →
            server.shareText pair.publicText = .error .peerValue ∧
            ∀ transport limit, Counterpart.Plays server transport →
              Config.NeverAgrees ⟨pair, limit⟩ transport) := by
  intro half
  refine ⟨fun pair => KeyPair.exists_generate_iff, parameters.half_inside, ?_⟩
  intro random pair drawn
  obtain ⟨exponent, ⟨low, high⟩, rfl⟩ := KeyPair.exists_generate_iff.mp ⟨random, drawn⟩
  rw [KeyPair.isPublic_publicValue_iff, KeyPair.exponent_withExponent]
  refine ⟨Parameters.usable_iff_not_isTrivial, ?_, ?_⟩
  · intro prime root
    exact Parameters.usable_iff_of_isPrimitiveRoot prime root ⟨by omega, high⟩
  intro peer server
  constructor
  · intro usable
    refine ⟨⟨_, (KeyPair.shareText_publicText exponent).mpr ⟨usable, rfl⟩⟩, ?_⟩
    intro transport limit plays peerPublic
    exact Config.agreesAtOnce_of_usable plays usable
      (KeyPair.isPublic_publicValue_iff.mp peerPublic) limit
  · intro outside
    have useless : ¬ parameters.Usable exponent := by
      rw [← KeyPair.isPublic_publicValue_iff, outside]
      exact Bool.false_ne_true
    constructor
    · change (KeyPair.withExponent parameters peer).shareText
        (Decimal.ofNat (KeyPair.withExponent parameters exponent).publicValue) = _
      rw [KeyPair.shareText_ofNat, KeyPair.share_eq, KeyPair.parameters_withExponent, outside]
      rfl
    · intro transport limit plays
      exact State.run_of_futile (Config.futile_of_not_usable plays useless limit)

/-- Modulus 23 and generator 5: the random number 4 selects the exponent 6, and a channel around the
pair agrees with the holder of 15 at once; the number 9 selects the exponent 11, whose public value
22 the holder of 15 refuses for ever. -/
theorem drawn_pair_modulo_23 :
    let parameters : Parameters := ⟨23, 5, by decide, by decide, by decide⟩
    let server := KeyPair.withExponent parameters 15
    let transport := Counterpart.transport server
    let good := KeyPair.withExponent parameters 6
    let bad := KeyPair.withExponent parameters 11
    Nat.Prime 23 ∧ IsPrimitiveRoot ((5 : Nat) : ZMod 23) 22 ∧
      Counterpart.Plays server transport ∧ parameters.isPublic server.publicValue = true ∧
      (KeyPair.generate parameters 4 = .ok good ∧ parameters.isPublic good.publicValue = true ∧
        Config.AgreesAtOnce ⟨good, 0⟩ transport) ∧
      KeyPair.generate parameters 9 = .ok bad ∧ parameters.isPublic bad.publicValue = false ∧
      bad.publicText = "22" ∧ server.shareText "22" = .error .peerValue ∧
      Config.NeverAgrees ⟨bad, 0⟩ transport := by
  intro parameters server transport good bad
  have prime : Nat.Prime 23 := by decide +kernel
  have plays := Counterpart.plays_transport server
  have peerPublic : parameters.isPublic server.publicValue = true := by decide +kernel
  have drawnGood : KeyPair.generate parameters 4 = .ok good := KeyPair.generate_eq parameters 4
  have drawnBad : KeyPair.generate parameters 9 = .ok bad := KeyPair.generate_eq parameters 9
  obtain ⟨-, -, pairs⟩ := drawn_pair parameters
  obtain ⟨-, exactGood, peersGood⟩ := pairs 4 good drawnGood
  obtain ⟨-, exactBad, peersBad⟩ := pairs 9 bad drawnBad
  have inside : parameters.isPublic good.publicValue = true :=
    (exactGood prime Parameters.isPrimitiveRoot_five).mpr (by decide +kernel)
  have outside : parameters.isPublic bad.publicValue = false := by
    rw [Bool.eq_false_iff, Ne, exactBad prime Parameters.isPrimitiveRoot_five]
    decide +kernel
  have sent : bad.publicText = "22" := by decide +kernel
  obtain ⟨refused, never⟩ := (peersBad 15).2 outside
  rw [sent] at refused
  exact ⟨prime, Parameters.isPrimitiveRoot_five, plays, peerPublic,
    ⟨drawnGood, inside, ((peersGood 15).1 inside).2 transport 0 plays peerPublic⟩,
    drawnBad, outside, sent, refused, never transport 0 plays⟩

end SealedCredentials.Channel
