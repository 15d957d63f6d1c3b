import SealedCredentials.Proofs.Agreement.Secret
import Mathlib.FieldTheory.Finite.Basic

/-!
# What the range of public values is good for

A trivial value is zero, one or the modulus less one.  The range of public values leaves out these
three, but a power of a value in range may be trivial all the same.  Let the modulus be a safe
prime, twice a prime and one more.  Then the square of a value in range has this prime, the half of
the group's order, for its order (`orderOf_sq`).  A power is trivial exactly if its square is one,
so among the exponents in range the half is the only one whose power is trivial
(`Parameters.isTrivial_power_iff`).

So the range does not keep a secret from being trivial, but only one exponent makes it so, whoever
the other side is, and this exponent has a trivial public value too (`KeyPair.safe_prime`).
-/

set_option autoImplicit false

namespace SealedCredentials.Agreement

open Arithmetic

/-- A value that would tell nothing about the exponent, or next to nothing. -/
def Parameters.IsTrivial (parameters : Parameters) (value : Nat) : Prop :=
  value = 0 ∨ value = 1 ∨ value = parameters.modulus - 1

namespace Parameters

variable {parameters : Parameters} {value : Nat}

/-- A value below the modulus is trivial, or it is in the range of public values. -/
theorem inside_iff_not_isTrivial (below : value < parameters.modulus) :
    2 ≤ value ∧ value ≤ parameters.modulus - 2 ↔ ¬ parameters.IsTrivial value := by
  have large := parameters.five_le_modulus
  rw [IsTrivial]
  omega

/-- An exponent is of use if its public value is not trivial. -/
theorem usable_iff_not_isTrivial {exponent : Nat} :
    parameters.Usable exponent ↔
      ¬ parameters.IsTrivial (parameters.generator ^ exponent % parameters.modulus) := by
  have large := parameters.five_le_modulus
  exact inside_iff_not_isTrivial (Nat.mod_lt _ (by omega))

end Parameters

/-! ## Squares under a prime modulus -/

section Prime

variable {modulus value : Nat}

theorem natCast_eq_one_iff (small : 1 < modulus) (below : value < modulus) :
    (value : ZMod modulus) = 1 ↔ value = 1 := by
  rw [← Nat.cast_one, ZMod.natCast_eq_natCast_iff', Nat.mod_eq_of_lt below,
    Nat.mod_eq_of_lt small]

theorem natCast_eq_neg_one_iff (below : value < modulus) :
    (value : ZMod modulus) = -1 ↔ value = modulus - 1 := by
  rw [eq_neg_iff_add_eq_zero, ← Nat.cast_one, ← Nat.cast_add, ZMod.natCast_eq_zero_iff]
  constructor
  · intro divides
    have least := Nat.le_of_dvd (Nat.succ_pos value) divides
    omega
  · rintro rfl
    exact ⟨1, by omega⟩

/-- Under a prime modulus the trivial values apart from zero are the roots of one. -/
theorem sq_eq_one_iff_of_lt [Fact modulus.Prime] (below : value < modulus) :
    (value : ZMod modulus) ^ 2 = 1 ↔ value = 1 ∨ value = modulus - 1 := by
  have small : 1 < modulus := (Fact.out : modulus.Prime).one_lt
  rw [sq_eq_one_iff, natCast_eq_one_iff small below, natCast_eq_neg_one_iff below]

theorem natCast_ne_zero [Fact modulus.Prime] (positive : 0 < value) (below : value < modulus) :
    (value : ZMod modulus) ≠ 0 := by
  rw [Ne, ZMod.natCast_eq_zero_iff]
  exact Nat.not_dvd_of_pos_of_lt positive below

/-- Under a prime modulus a power is trivial exactly if its square is one. -/
theorem power_trivial_iff [Fact modulus.Prime] (positive : 0 < value) (below : value < modulus)
    (exponent : Nat) :
    (value ^ exponent % modulus = 0 ∨ value ^ exponent % modulus = 1 ∨
        value ^ exponent % modulus = modulus - 1) ↔
      ((value : ZMod modulus) ^ exponent) ^ 2 = 1 := by
  have same : ((value ^ exponent % modulus : Nat) : ZMod modulus) =
      (value : ZMod modulus) ^ exponent := by
    rw [ZMod.natCast_mod, Nat.cast_pow]
  have nonzero : value ^ exponent % modulus ≠ 0 := by
    intro none
    rw [none, Nat.cast_zero] at same
    exact pow_ne_zero exponent (natCast_ne_zero positive below) same.symm
  rw [or_iff_right nonzero, ← same,
    sq_eq_one_iff_of_lt (Nat.mod_lt _ (Nat.zero_lt_of_lt below))]

/-- Under a safe prime the square of a value that is not trivial has order `half`. -/
theorem orderOf_sq {half : Nat} [Fact half.Prime] [Fact (2 * half + 1).Prime]
    (low : 2 ≤ value) (high : value + 2 ≤ 2 * half + 1) :
    orderOf ((value : ZMod (2 * half + 1)) ^ 2) = half := by
  apply orderOf_eq_prime
  · have nonzero : (value : ZMod (2 * half + 1)) ≠ 0 := natCast_ne_zero (by omega) (by omega)
    rw [← pow_mul]
    exact ZMod.pow_card_sub_one_eq_one nonzero
  · rw [Ne, sq_eq_one_iff_of_lt (by omega)]
    omega

end Prime

/-! ## Trivial powers -/

/-- A multiple of a number that is positive and less than twice the number is the number. -/
theorem dvd_iff_eq_of_lt {half exponent : Nat} (positive : 0 < exponent)
    (below : exponent < 2 * half) : half ∣ exponent ↔ exponent = half := by
  constructor
  · rintro ⟨factor, rfl⟩
    have one : factor = 1 := by
      have least : 0 < factor := Nat.pos_of_mul_pos_left positive
      have most : factor < 2 := by
        rw [Nat.mul_comm] at below
        exact Nat.lt_of_mul_lt_mul_right below
      omega
    rw [one, Nat.mul_one]
  · rintro rfl
    exact Nat.dvd_refl exponent

/-- **Under a safe prime, the power of a public value is trivial for one exponent in range
only.** -/
theorem Parameters.isTrivial_power_iff {parameters : Parameters} {half value exponent : Nat}
    (prime : half.Prime) (safe : (2 * half + 1).Prime)
    (modulus : parameters.modulus = 2 * half + 1)
    (valueInside : 2 ≤ value ∧ value ≤ parameters.modulus - 2)
    (exponentInside : 1 ≤ exponent ∧ exponent ≤ parameters.modulus - 2) :
    parameters.IsTrivial (value ^ exponent % parameters.modulus) ↔ exponent = half := by
  rw [modulus] at valueInside exponentInside
  have : Fact half.Prime := ⟨prime⟩
  have : Fact (2 * half + 1).Prime := ⟨safe⟩
  calc parameters.IsTrivial (value ^ exponent % parameters.modulus)
      ↔ ((value : ZMod (2 * half + 1)) ^ exponent) ^ 2 = 1 := by
        rw [IsTrivial, modulus]
        exact power_trivial_iff (by omega) (by omega) exponent
    _ ↔ ((value : ZMod (2 * half + 1)) ^ 2) ^ exponent = 1 := by
        rw [pow_right_comm]
    _ ↔ half ∣ exponent := by
        rw [← orderOf_dvd_iff_pow_eq_one, orderOf_sq valueInside.1 (by omega)]
    _ ↔ exponent = half := dvd_iff_eq_of_lt exponentInside.1 (by omega)

namespace KeyPair

/-- **Under a safe prime one exponent only has trivial secrets.**  Whatever public value is
accepted, the secret shared with its holder is trivial exactly if one's own exponent is the half of
the modulus less one; and exactly then one's own public value is trivial.  So two pairs accept each
other and share a secret in the range of public values exactly if neither has this exponent. -/
theorem safe_prime {half generator : Nat} {parameters : Parameters} (prime : half.Prime)
    (safe : (2 * half + 1).Prime)
    (accepted : Parameters.make (2 * half + 1) generator = .ok parameters) :
    (∀ exponent, 1 ≤ exponent → exponent ≤ parameters.modulus - 2 → ∃ pair,
      ofExponent parameters exponent = .ok pair ∧
      (∀ value, 2 ≤ value → value ≤ parameters.modulus - 2 → ∃ secret,
        pair.share value = .ok secret ∧ secret.value = value ^ exponent % parameters.modulus ∧
        (parameters.IsTrivial secret.value ↔ exponent = half)) ∧
      (parameters.IsTrivial pair.publicValue ↔ exponent = half)) ∧
    ∀ first second ours theirs, ofExponent parameters first = .ok ours →
      ofExponent parameters second = .ok theirs →
      ((∃ secret, ours.share theirs.publicValue = .ok secret ∧
          theirs.share ours.publicValue = .ok secret ∧
          2 ≤ secret.value ∧ secret.value ≤ parameters.modulus - 2) ↔
        first ≠ half ∧ second ≠ half) := by
  obtain ⟨modulus, rfl⟩ := Parameters.make_eq_ok_iff.mp accepted
  have power {exponent value : Nat}
      (inside : 1 ≤ exponent ∧ exponent ≤ parameters.modulus - 2)
      (valueInside : 2 ≤ value ∧ value ≤ parameters.modulus - 2) :
      parameters.IsTrivial (value ^ exponent % parameters.modulus) ↔ exponent = half :=
    Parameters.isTrivial_power_iff prime safe modulus valueInside inside
  have own {exponent : Nat} (inside : 1 ≤ exponent ∧ exponent ≤ parameters.modulus - 2) :
      parameters.IsTrivial (parameters.generator ^ exponent % parameters.modulus) ↔
        exponent = half :=
    power inside ⟨parameters.two_le_generator, parameters.generator_le⟩
  have usable {exponent : Nat} (inside : 1 ≤ exponent ∧ exponent ≤ parameters.modulus - 2) :
      parameters.Usable exponent ↔ exponent ≠ half := by
    rw [Parameters.usable_iff_not_isTrivial, own inside]
  constructor
  · intro exponent positive below
    refine ⟨withExponent parameters exponent,
      ofExponent_eq_ok_iff.mpr ⟨⟨positive, below⟩, rfl⟩, ?_, ?_⟩
    · intro value low high
      exact ⟨_, share_eq_ok_iff.mpr ⟨⟨low, high⟩, rfl⟩, rfl, power ⟨positive, below⟩ ⟨low, high⟩⟩
    · rw [publicValue_withExponent]
      exact own ⟨positive, below⟩
  · intro first second ours theirs ourChoice theirChoice
    obtain ⟨ourInside, rfl⟩ := ofExponent_eq_ok_iff.mp ourChoice
    obtain ⟨theirInside, rfl⟩ := ofExponent_eq_ok_iff.mp theirChoice
    rw [← usable ourInside, ← usable theirInside, ← exists_common_secret_iff]
    constructor
    · rintro ⟨secret, ourShare, theirShare, -⟩
      exact ⟨secret, ourShare, theirShare⟩
    · rintro ⟨secret, ourShare, theirShare⟩
      have ourUse := ((share_publicValue first).mp theirShare).1
      obtain ⟨theirPublic, rfl⟩ := share_eq_ok_iff.mp ourShare
      have nontrivial := (usable ourInside).mp ourUse
      rw [Ne, ← power ourInside theirPublic] at nontrivial
      exact ⟨_, ourShare, theirShare,
        (Parameters.inside_iff_not_isTrivial (Nat.mod_lt _ (by omega))).mpr nontrivial⟩

/-- Twenty-three is twice eleven and one more.  A pair with the exponent 11 has the public value 22
and shares 22 with the holder of 5; the exponents 6 and 15 share the secret 2. -/
theorem safe_prime_23 :
    let parameters : Parameters := ⟨23, 5, by decide, by decide, by decide⟩
    Nat.Prime 11 ∧ Nat.Prime 23 ∧ Parameters.make 23 5 = .ok parameters ∧
      parameters.IsTrivial (withExponent parameters 11).publicValue ∧
      (withExponent parameters 11).share 5 = .ok ⟨22⟩ ∧ parameters.IsTrivial 22 ∧
      ∃ secret,
        (withExponent parameters 6).share (withExponent parameters 15).publicValue = .ok secret ∧
        (withExponent parameters 15).share (withExponent parameters 6).publicValue = .ok secret ∧
        2 ≤ secret.value ∧ secret.value ≤ 21 := by
  intro parameters
  have prime : Nat.Prime 11 := by decide +kernel
  have safe : Nat.Prime (2 * 11 + 1) := by decide +kernel
  have accepted : Parameters.make (2 * 11 + 1) 5 = .ok parameters := rfl
  obtain ⟨one, two⟩ := safe_prime prime safe accepted
  obtain ⟨pair, chosen, shares, publicTrivial⟩ := one 11 (by decide) (by decide)
  obtain ⟨-, rfl⟩ := ofExponent_eq_ok_iff.mp chosen
  obtain ⟨secret, shared, same, trivial⟩ := shares 5 (by decide) (by decide)
  have value : secret = ⟨22⟩ := congrArg SharedSecret.mk (same.trans (by decide))
  subst value
  refine ⟨prime, safe, accepted, publicTrivial.mpr rfl, shared, trivial.mpr rfl, ?_⟩
  exact (two 6 15 _ _ rfl rfl).mpr (by decide)

end KeyPair

end SealedCredentials.Agreement
