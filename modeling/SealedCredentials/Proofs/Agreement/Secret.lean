import SealedCredentials.Proofs.Agreement.KeyPair

/-!
# Both sides share the same secret

Nothing about a key pair depends on the modulus being prime.  Powers of powers are the same in
either order under any modulus, so two pairs over the same parameters that accept each other's
public values share one secret, the generator's power of the product of the exponents
(`KeyPair.agreement`), and it makes no difference whether the public values are sent as texts.
-/

set_option autoImplicit false

namespace SealedCredentials.Agreement

open Arithmetic

/-- Parameters are made of a modulus and a generator in range, and hold these two. -/
theorem Parameters.make_eq_ok_iff {modulus generator : Nat} {parameters : Parameters} :
    make modulus generator = .ok parameters ↔
      parameters.modulus = modulus ∧ parameters.generator = generator := by
  rw [make]
  split
  · rename_i cause opposed
    constructor
    · intro impossible
      cases impossible
    · rintro ⟨rfl, rfl⟩
      have inside := And.intro parameters.two_le_generator parameters.generator_le
      rw [objection_plain, if_neg (Nat.not_lt.mpr parameters.five_le_modulus),
        if_pos inside] at opposed
      cases opposed
  · constructor
    · intro made
      cases made
      exact ⟨rfl, rfl⟩
    · rintro ⟨rfl, rfl⟩
      rfl

namespace KeyPair

/-- Two pairs over the same parameters share one secret exactly if the public values of both are in
range. -/
theorem exists_common_secret_iff {parameters : Parameters} {first second : Nat} :
    (∃ secret,
      (withExponent parameters first).share
          (withExponent parameters second).publicValue = .ok secret ∧
        (withExponent parameters second).share
          (withExponent parameters first).publicValue = .ok secret) ↔
      parameters.Usable first ∧ parameters.Usable second := by
  constructor
  · rintro ⟨secret, ourShare, theirShare⟩
    have ourUse := ((share_publicValue first).mp theirShare).1
    have theirUse := ((share_publicValue second).mp ourShare).1
    exact ⟨ourUse, theirUse⟩
  · rintro ⟨ourUse, theirUse⟩
    refine ⟨_, (share_publicValue second).mpr ⟨theirUse, rfl⟩,
      (share_publicValue first).mpr ⟨ourUse, ?_⟩⟩
    rw [Nat.mul_comm first second]

/-- **Two pairs over the same parameters agree, whether the modulus is prime or not.**  The public
value of a pair is the generator's power, also when it is computed anew.  A pair shares a secret
with the holder of a value exactly if the value is in range, and the secret is the value's power.
If each of two pairs accepts the public value of the other, both share the generator's power of
the product of their exponents.  A public value sent as a text leads to the same. -/
theorem agreement {modulus generator first second : Nat} {parameters : Parameters}
    {ours theirs : KeyPair} (accepted : Parameters.make modulus generator = .ok parameters)
    (ourChoice : ofExponent parameters first = .ok ours)
    (theirChoice : ofExponent parameters second = .ok theirs) :
    let ourValue := generator ^ first % modulus
    let theirValue := generator ^ second % modulus
    let secret : SharedSecret := ⟨generator ^ (first * second) % modulus⟩
    (ours.publicValue = ourValue ∧ ours.recomputed = ourValue) ∧
      (theirs.publicValue = theirValue ∧ theirs.recomputed = theirValue) ∧
      (∀ value shared, ours.share value = .ok shared ↔
        (2 ≤ value ∧ value ≤ modulus - 2) ∧ shared = ⟨value ^ first % modulus⟩) ∧
      (∀ value, ¬ (2 ≤ value ∧ value ≤ modulus - 2) → ours.share value = .error .peerValue) ∧
      (∀ shared back, ours.share theirs.publicValue = .ok shared →
        theirs.share ours.publicValue = .ok back → shared = secret ∧ back = secret) ∧
      ours.shareText theirs.publicText = ours.share theirs.publicValue ∧
      theirs.shareText ours.publicText = theirs.share ours.publicValue := by
  intro ourValue theirValue secret
  obtain ⟨rfl, rfl⟩ := Parameters.make_eq_ok_iff.mp accepted
  obtain ⟨-, rfl⟩ := ofExponent_eq_ok_iff.mp ourChoice
  obtain ⟨-, rfl⟩ := ofExponent_eq_ok_iff.mp theirChoice
  refine ⟨⟨publicValue_withExponent _ _, recomputed_withExponent _ _⟩,
    ⟨publicValue_withExponent _ _, recomputed_withExponent _ _⟩, ?_, ?_, ?_,
    shareText_ofNat _ _, shareText_ofNat _ _⟩
  · intro value shared
    exact share_eq_ok_iff
  · intro value outside
    rw [share_withExponent, if_neg outside]
  · intro shared back ourShare theirShare
    obtain ⟨-, rfl⟩ := (share_publicValue second).mp ourShare
    obtain ⟨-, rfl⟩ := (share_publicValue first).mp theirShare
    rw [Nat.mul_comm second first]
    exact ⟨rfl, rfl⟩

/-- Under the composite modulus 35 the exponents 5 and 7 lead to the public values 32 and 23, and
to the secret 18. -/
theorem agreement_modulo_35 :
    let parameters : Parameters := ⟨35, 2, by decide, by decide, by decide⟩
    let ours := withExponent parameters 5
    let theirs := withExponent parameters 7
    Parameters.make 35 2 = .ok parameters ∧ ofExponent parameters 5 = .ok ours ∧
      ofExponent parameters 7 = .ok theirs ∧ ours.publicValue = 32 ∧ theirs.publicValue = 23 ∧
      ours.share theirs.publicValue = .ok ⟨18⟩ ∧ theirs.share ours.publicValue = .ok ⟨18⟩ ∧
      2 ^ (5 * 7) % 35 = 18 := by
  intro parameters ours theirs
  have made : Parameters.make 35 2 = .ok parameters := rfl
  have ourChoice : ofExponent parameters 5 = .ok ours := rfl
  have theirChoice : ofExponent parameters 7 = .ok theirs := rfl
  obtain ⟨⟨ourValue, -⟩, ⟨theirValue, -⟩, -, -, same, -⟩ := agreement made ourChoice theirChoice
  have shared : ours.share theirs.publicValue = .ok ⟨18⟩ := by decide +kernel
  have back : theirs.share ours.publicValue = .ok ⟨18⟩ := by decide +kernel
  obtain ⟨secret, -⟩ := same _ _ shared back
  exact ⟨made, ourChoice, theirChoice, ourValue, theirValue, shared, back,
    (SharedSecret.mk.inj secret).symm⟩

end KeyPair

end SealedCredentials.Agreement
