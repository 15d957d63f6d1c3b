import SealedCredentials.Proofs.Agreement.SafePrime
import Mathlib.RingTheory.RootsOfUnity.PrimitiveRoots

/-!
# Which pairs are drawn, and which of them are of use

A pair is drawn with any exponent from two to the modulus less two, and with no other
(`KeyPair.exists_generate_iff`).  Whether its public value is in range is not looked at.

Let the modulus be prime and the generator a primitive root of it, as they are meant to be.  Then
the generator's power is trivial exactly if twice the exponent is a multiple of the modulus less
one, and among the exponents that can be drawn this is so for one, the half of the modulus less one
(`Parameters.usable_iff_of_isPrimitiveRoot`).  So there always is a pair that can be drawn and has a
public value out of range (`KeyPair.not_generated_isPublic`).
-/

set_option autoImplicit false

namespace SealedCredentials.Agreement

/-! ## Drawing -/

namespace KeyPair

/-- **The pairs that can be drawn are those with an exponent from two to the modulus less two.** -/
theorem exists_generate_iff {parameters : Parameters} {pair : KeyPair} :
    (∃ random, generate parameters random = .ok pair) ↔
      ∃ exponent, (2 ≤ exponent ∧ exponent ≤ parameters.modulus - 2) ∧
        pair = withExponent parameters exponent := by
  have large := parameters.five_le_modulus
  constructor
  · rintro ⟨random, drawn⟩
    have below : random % (parameters.modulus - 3) < parameters.modulus - 3 :=
      Nat.mod_lt _ (by omega)
    rw [generate_eq] at drawn
    exact ⟨_, ⟨by omega, by omega⟩, (Except.ok.inj drawn).symm⟩
  · rintro ⟨exponent, ⟨low, high⟩, rfl⟩
    refine ⟨exponent - 2, ?_⟩
    rw [generate_eq, Nat.mod_eq_of_lt (by omega), Nat.add_sub_cancel' low]

/-- The public value of a pair is in range exactly if its exponent is of use. -/
theorem isPublic_publicValue_iff {parameters : Parameters} {exponent : Nat} :
    parameters.isPublic (withExponent parameters exponent).publicValue = true ↔
      parameters.Usable exponent := by
  rw [Parameters.isPublic_iff, publicValue_withExponent, Parameters.Usable]

end KeyPair

/-! ## Primitive roots -/

namespace Parameters

variable {parameters : Parameters}

/-- The half of the modulus less one can be drawn. -/
theorem half_inside (parameters : Parameters) :
    2 ≤ (parameters.modulus - 1) / 2 ∧ (parameters.modulus - 1) / 2 ≤ parameters.modulus - 2 := by
  have large := parameters.five_le_modulus
  omega

/-- **With a primitive root of a prime modulus, one exponent in range only is of no use.** -/
theorem usable_iff_of_isPrimitiveRoot (prime : parameters.modulus.Prime)
    (root : IsPrimitiveRoot (parameters.generator : ZMod parameters.modulus)
      (parameters.modulus - 1))
    {exponent : Nat} (inside : 1 ≤ exponent ∧ exponent ≤ parameters.modulus - 2) :
    parameters.Usable exponent ↔ exponent ≠ (parameters.modulus - 1) / 2 := by
  have : Fact parameters.modulus.Prime := ⟨prime⟩
  have large := parameters.five_le_modulus
  have low := parameters.two_le_generator
  have high := parameters.generator_le
  have odd : parameters.modulus % 2 = 1 := prime.eq_two_or_odd.resolve_left (by omega)
  have trivial : parameters.IsTrivial (parameters.generator ^ exponent % parameters.modulus) ↔
      exponent = (parameters.modulus - 1) / 2 := by
    calc parameters.IsTrivial (parameters.generator ^ exponent % parameters.modulus)
        ↔ ((parameters.generator : ZMod parameters.modulus) ^ exponent) ^ 2 = 1 :=
          power_trivial_iff (by omega) (by omega) exponent
      _ ↔ parameters.modulus - 1 ∣ exponent * 2 := by
          rw [← pow_mul, root.pow_eq_one_iff_dvd]
      _ ↔ exponent * 2 = parameters.modulus - 1 := dvd_iff_eq_of_lt (by omega) (by omega)
      _ ↔ exponent = (parameters.modulus - 1) / 2 := by omega
  rw [usable_iff_not_isTrivial, trivial]

/-- Five is a primitive root of twenty-three. -/
theorem isPrimitiveRoot_five : IsPrimitiveRoot ((5 : Nat) : ZMod 23) 22 := by
  have early : ∀ exponent ∈ Finset.Ico 1 22, ((5 : Nat) : ZMod 23) ^ exponent ≠ 1 := by decide
  exact IsPrimitiveRoot.mk_of_lt _ (by decide) (by decide) fun exponent positive below =>
    early exponent (Finset.mem_Ico.mpr ⟨positive, below⟩)

end Parameters

/-- Modulus 23 and generator 5: the random number 9 selects the exponent 11, whose public value is
22. -/
theorem KeyPair.not_generated_isPublic :
    ¬ ∀ parameters : Parameters, parameters.modulus.Prime →
      IsPrimitiveRoot (parameters.generator : ZMod parameters.modulus) (parameters.modulus - 1) →
      ∀ random pair, generate parameters random = .ok pair →
        parameters.isPublic pair.publicValue = true := by
  intro all
  let parameters : Parameters := ⟨23, 5, by decide, by decide, by decide⟩
  have prime : Nat.Prime 23 := by decide +kernel
  have outside : parameters.isPublic (withExponent parameters 11).publicValue = false := by
    decide +kernel
  have inside := all parameters prime Parameters.isPrimitiveRoot_five 9 _ (generate_eq parameters 9)
  cases inside.symm.trans outside

end SealedCredentials.Agreement
