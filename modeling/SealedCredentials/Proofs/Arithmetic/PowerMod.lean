import SealedCredentials.Arithmetic.PowerMod
import Mathlib.Data.Nat.ModEq
import Mathlib.Tactic.Ring

/-!
# Square and multiply computes modular powers

Reading the exponent's binary digits from the highest to the lowest, the running value is
always the base to the power that the digits read so far spell, reduced by the modulus.  One
digit doubles that power and adds the digit (`squareMultiply_of_power`), so after the last
digit the running value is the power asked for (`powerMod_eq`).
-/

set_option autoImplicit false

namespace SealedCredentials.Arithmetic

/-! ## Binary digits -/

theorem binaryOnto_zero (digits : List Bool) : binaryOnto 0 digits = digits := by
  rw [binaryOnto, if_pos rfl]

/-- The last binary digit tells odd from even; the half is written in front of it. -/
theorem binaryOnto_of_ne_zero {number : Nat} (nonzero : number ≠ 0) (digits : List Bool) :
    binaryOnto number digits = binaryOnto (number / 2) ((number % 2 == 1) :: digits) := by
  rw [binaryOnto, if_neg nonzero]

/-- Putting binary digits in front of others is writing them before the others. -/
theorem binaryOnto_eq_append (number : Nat) (digits : List Bool) :
    binaryOnto number digits = binary number ++ digits := by
  induction number using Nat.strongRecOn generalizing digits with
  | ind number ih =>
    unfold binary
    by_cases zero : number = 0
    · subst zero
      rw [binaryOnto_zero, binaryOnto_zero, List.nil_append]
    · have smaller : number / 2 < number := Nat.div_lt_self (by omega) (by omega)
      rw [binaryOnto_of_ne_zero zero, binaryOnto_of_ne_zero zero, ih _ smaller, ih _ smaller,
        List.append_assoc, List.singleton_append]

/-- Zero has no binary digits. -/
theorem binary_zero : binary 0 = [] := binaryOnto_zero []

/-- The binary digits of a number are those of its half and one more. -/
theorem binary_of_ne_zero {number : Nat} (nonzero : number ≠ 0) :
    binary number = binary (number / 2) ++ [number % 2 == 1] := by
  rw [binary, binaryOnto_of_ne_zero nonzero, binaryOnto_eq_append]

/-! ## The running value -/

/-- One digit takes the base's power of an exponent to its power of twice the exponent plus
the digit. -/
theorem squareMultiply_of_power (base modulus exponent : Nat) (digit : Bool) :
    squareMultiply (base % modulus) modulus (base ^ exponent % modulus) digit =
      base ^ (2 * exponent + digit.toNat) % modulus := by
  have squared : base ^ exponent % modulus * (base ^ exponent % modulus) % modulus =
      base ^ (2 * exponent) % modulus := by
    rw [← Nat.mul_mod, ← Nat.pow_add, two_mul]
  cases digit with
  | false => simp only [squareMultiply, squared, Bool.false_eq_true, if_false,
      Bool.toNat_false, Nat.add_zero]
  | true =>
    simp only [squareMultiply, squared, if_true, Bool.toNat_true]
    rw [← Nat.mul_mod, ← Nat.pow_succ]

/-- The digits of an exponent take the running value from one to the base's power. -/
theorem foldl_squareMultiply (base exponent : Nat) {modulus : Nat} (notOne : modulus ≠ 1) :
    (binary exponent).foldl (squareMultiply (base % modulus) modulus) 1 =
      base ^ exponent % modulus := by
  induction exponent using Nat.strongRecOn with
  | ind exponent ih =>
    by_cases zero : exponent = 0
    · subst zero
      have one : 1 % modulus = 1 := by
        rcases Nat.eq_zero_or_pos modulus with none | positive
        · rw [none]
        · exact Nat.mod_eq_of_lt (by omega)
      rw [binary_zero, List.foldl_nil, Nat.pow_zero, one]
    · have smaller : exponent / 2 < exponent := Nat.div_lt_self (by omega) (by omega)
      have spelled : 2 * (exponent / 2) + (exponent % 2 == 1).toNat = exponent := by
        rcases Nat.mod_two_eq_zero_or_one exponent with even | odd
        · rw [even]; simp only [Nat.reduceBEq, Bool.toNat_false]; omega
        · rw [odd]; simp only [Nat.reduceBEq, Bool.toNat_true]; omega
      rw [binary_of_ne_zero zero, List.foldl_append, ih _ smaller, List.foldl_cons,
        List.foldl_nil, squareMultiply_of_power, spelled]

/-- **Square and multiply is the modular power.** -/
theorem powerMod_eq (base exponent modulus : Nat) :
    powerMod base exponent modulus = base ^ exponent % modulus := by
  unfold powerMod
  by_cases one : modulus = 1
  · rw [if_pos one, one, Nat.mod_one]
  · rw [if_neg one, foldl_squareMultiply base exponent one]

/-- A power of a reduced power is the reduced power of the product of the exponents. -/
theorem power_mod_power_mod (base first second modulus : Nat) :
    (base ^ first % modulus) ^ second % modulus = base ^ (first * second) % modulus := by
  rw [← Nat.pow_mod, ← Nat.pow_mul]

end SealedCredentials.Arithmetic
