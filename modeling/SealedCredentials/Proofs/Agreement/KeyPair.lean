import SealedCredentials.Agreement.KeyPair
import SealedCredentials.Proofs.Arithmetic.Decimal
import SealedCredentials.Proofs.Arithmetic.PowerMod

/-!
# What a key pair computes

The stored bytes of an exponent give the exponent back (`ofBytes_toBytes`), so a pair's public
value is the generator's power (`publicValue_withExponent`), and what it shares with the holder
of a value in range is that value's power (`shareText_eq_ok_iff`).  Two pairs over the same
parameters that accept each other's public values share the same secret, the generator's power
of the product of their exponents (`shareText_publicText`).
-/

set_option autoImplicit false

namespace SealedCredentials

open Arithmetic

namespace Agreement

/-! ## Stored exponents -/

/-- Bytes read after those of a number go on from the number. -/
theorem foldl_bytesOnto (number : Nat) (bytes : List UInt8) :
    (bytesOnto number bytes).foldl (fun number byte => number * 256 + byte.toNat) 0 =
      bytes.foldl (fun number byte => number * 256 + byte.toNat) number := by
  induction number using Nat.strongRecOn generalizing bytes with
  | ind number ih =>
    by_cases small : number < 256
    · rw [bytesOnto, if_pos small, List.foldl_cons, UInt8.toNat_ofNat_of_lt' small]
      simp only [Nat.zero_mul, Nat.zero_add]
    · have last : (UInt8.ofNat (number % 256)).toNat = number % 256 :=
        UInt8.toNat_ofNat_of_lt' (Nat.mod_lt _ (by omega))
      have whole : number / 256 * 256 + number % 256 = number := by omega
      rw [bytesOnto, if_neg small, ih _ (by omega), List.foldl_cons, last, whole]

/-- **A number is read back from its bytes.** -/
theorem ofBytes_toBytes (number : Nat) : ofBytes (toBytes number) = number :=
  foldl_bytesOnto number []

/-! ## Pairs -/

theorem Parameters.isPublic_iff (parameters : Parameters) (value : Nat) :
    parameters.isPublic value = true ↔ 2 ≤ value ∧ value ≤ parameters.modulus - 2 := by
  rw [isPublic, between_plain, decide_eq_true_eq]

theorem Parameters.isExponent_iff (parameters : Parameters) (value : Nat) :
    parameters.isExponent value = true ↔ 1 ≤ value ∧ value ≤ parameters.modulus - 2 := by
  rw [isExponent, between_plain, decide_eq_true_eq]

/-- The public value of an exponent is in range. -/
def Parameters.Usable (parameters : Parameters) (exponent : Nat) : Prop :=
  2 ≤ parameters.generator ^ exponent % parameters.modulus ∧
    parameters.generator ^ exponent % parameters.modulus ≤ parameters.modulus - 2

namespace KeyPair

variable (parameters : Parameters) (exponent : Nat)

/-- The power that the operations are asked for. -/
theorem recomputed_eq (pair : KeyPair) :
    pair.recomputed =
      powerMod pair.parameters.generator pair.exponent pair.parameters.modulus := rfl

/-- An exponent in range makes a pair. -/
theorem ofExponent_eq :
    ofExponent parameters exponent =
      if parameters.isExponent exponent then .ok (withExponent parameters exponent)
      else .error (.parameters .exponentRange) := rfl

/-- A value in range is taken to the power of the exponent. -/
theorem share_eq (pair : KeyPair) (value : Nat) :
    pair.share value =
      if pair.parameters.isPublic value then
        .ok ⟨powerMod value pair.exponent pair.parameters.modulus⟩
      else .error .peerValue := rfl

@[simp] theorem parameters_withExponent :
    (withExponent parameters exponent).parameters = parameters := rfl

@[simp] theorem exponent_withExponent :
    (withExponent parameters exponent).exponent = exponent := ofBytes_toBytes exponent

/-- Computed anew, the public value is the generator's power. -/
theorem recomputed_withExponent :
    (withExponent parameters exponent).recomputed =
      parameters.generator ^ exponent % parameters.modulus := by
  rw [recomputed_eq, exponent_withExponent, powerMod_eq, parameters_withExponent]

/-- The public value is the generator's power. -/
theorem publicValue_withExponent :
    (withExponent parameters exponent).publicValue =
      parameters.generator ^ exponent % parameters.modulus :=
  recomputed_withExponent parameters exponent

/-- The public value as it is sent. -/
theorem publicText_withExponent :
    (withExponent parameters exponent).publicText =
      Decimal.ofNat (parameters.generator ^ exponent % parameters.modulus) := by
  rw [publicText, publicValue_withExponent]

variable {parameters exponent}

/-- A chosen exponent makes a pair exactly when it is in range. -/
theorem ofExponent_eq_ok_iff {pair : KeyPair} :
    ofExponent parameters exponent = .ok pair ↔
      (1 ≤ exponent ∧ exponent ≤ parameters.modulus - 2) ∧
        pair = withExponent parameters exponent := by
  rw [ofExponent_eq, ← parameters.isExponent_iff]
  by_cases inside : parameters.isExponent exponent = true
  · rw [if_pos inside, Except.ok.injEq]
    exact ⟨fun same => ⟨inside, same.symm⟩, fun pair => pair.2.symm⟩
  · rw [if_neg inside]
    constructor
    · intro impossible
      cases impossible
    · intro pair
      exact absurd pair.1 inside

/-- There always is an exponent to draw, and a random number selects it. -/
theorem generate_eq (parameters : Parameters) (random : Nat) :
    generate parameters random =
      .ok (withExponent parameters (2 + random % (parameters.modulus - 3))) := by
  have large := parameters.five_le_modulus
  have room : 2 < parameters.modulus - 1 := by omega
  have drawn : drawBetween 2 (parameters.modulus - 1) random =
      .ok (2 + random % (parameters.modulus - 3)) := by
    rw [drawBetween, drawFrom, if_pos room, Nat.sub_sub]
  have top : (Operations.plain.difference parameters.modulus 1).run =
      parameters.modulus - 1 := rfl
  rw [generate, generateBy, Id.run_bind, top, drawn]
  rfl

/-! ## Secrets -/

/-- What is shared with the holder of a value: its power, if the value is in range, and nothing
otherwise. -/
theorem share_withExponent (parameters : Parameters) (exponent value : Nat) :
    (withExponent parameters exponent).share value =
      if 2 ≤ value ∧ value ≤ parameters.modulus - 2 then
        .ok ⟨value ^ exponent % parameters.modulus⟩
      else .error .peerValue := by
  simp only [share_eq, parameters_withExponent, exponent_withExponent, powerMod_eq,
    Parameters.isPublic_iff]

theorem share_eq_ok_iff {value : Nat} {secret : SharedSecret} :
    (withExponent parameters exponent).share value = .ok secret ↔
      (2 ≤ value ∧ value ≤ parameters.modulus - 2) ∧
        secret = ⟨value ^ exponent % parameters.modulus⟩ := by
  rw [share_withExponent]
  by_cases inside : 2 ≤ value ∧ value ≤ parameters.modulus - 2
  · rw [if_pos inside, Except.ok.injEq]
    exact ⟨fun same => ⟨inside, same.symm⟩, fun shared => shared.2.symm⟩
  · rw [if_neg inside]
    constructor
    · intro impossible
      cases impossible
    · intro shared
      exact absurd shared.1 inside

/-- A text that a number is written as is as good as the number. -/
theorem shareText_ofNat (pair : KeyPair) (value : Nat) :
    pair.shareText (Decimal.ofNat value) = pair.share value := by
  rw [shareText, readInteger, Decimal.parse_ofNat]

/-- What is shared with the holder of a value that was sent as a text: its power, if the text
spells a value in range, and nothing otherwise. -/
theorem shareText_eq_ok_iff {peer : String} {secret : SharedSecret} :
    (withExponent parameters exponent).shareText peer = .ok secret ↔
      ∃ value, Decimal.parse peer = .ok value ∧
        (2 ≤ value ∧ value ≤ parameters.modulus - 2) ∧
        secret = ⟨value ^ exponent % parameters.modulus⟩ := by
  rw [shareText, readInteger]
  cases read : Decimal.parse peer with
  | error cause =>
    constructor
    · intro impossible
      cases impossible
    · rintro ⟨_, found, -⟩
      cases found
  | ok value =>
    constructor
    · intro shared
      exact ⟨value, rfl, share_eq_ok_iff.mp shared⟩
    · rintro ⟨_, ⟨⟩, shared⟩
      exact share_eq_ok_iff.mpr shared

/-- Two pairs over the same parameters: one shares a secret with the holder of the other's
public value exactly when that value is in range, and it is the generator's power of the
product of the exponents. -/
theorem share_publicValue (peerExponent : Nat) {secret : SharedSecret} :
    (withExponent parameters exponent).share
        (withExponent parameters peerExponent).publicValue = .ok secret ↔
      parameters.Usable peerExponent ∧
        secret = ⟨parameters.generator ^ (peerExponent * exponent) % parameters.modulus⟩ := by
  rw [share_eq_ok_iff, publicValue_withExponent, power_mod_power_mod, Parameters.Usable]

theorem shareText_publicText (peerExponent : Nat) {secret : SharedSecret} :
    (withExponent parameters exponent).shareText
        (withExponent parameters peerExponent).publicText = .ok secret ↔
      parameters.Usable peerExponent ∧
        secret = ⟨parameters.generator ^ (peerExponent * exponent) % parameters.modulus⟩ := by
  rw [publicText, shareText_ofNat, share_publicValue]

end KeyPair

end Agreement

end SealedCredentials
