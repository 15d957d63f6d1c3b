import SealedCredentials.Proofs.Arithmetic.PowerMod

/-!
# No product reaches the square of the modulus

Square and multiply never multiplies large numbers.  To say so, the same loop is run once more with
the factors of every product written down (`Traced`); forgetting them gives the loop back, digit by
digit (`Traced.value_foldl`).  One product of factors below the modulus, reduced, is below the
modulus again (`Traced.Reduced.times`), so this holds of the running value and of all factors after
each digit of the exponent, and hence after the last one.

`powerMod_reduced` puts this beside the value: the modular power is what comes out, and on the way
no product reaches the square of the modulus.
-/

set_option autoImplicit false

namespace SealedCredentials.Arithmetic

/-! ## Products written down -/

/-- A running value, and the two factors of every product that was formed before it. -/
structure Traced where
  value : Nat
  products : List (Nat × Nat)

namespace Traced

/-- The running value times a factor, reduced by the modulus. -/
def times (modulus : Nat) (running : Traced) (factor : Nat) : Traced :=
  ⟨running.value * factor % modulus, running.products ++ [(running.value, factor)]⟩

/-- One more digit of the exponent. -/
def squareMultiply (base modulus : Nat) (running : Traced) (digit : Bool) : Traced :=
  let squared := running.times modulus running.value
  if digit then squared.times modulus base else squared

/-- The modular power and all products on the way to it. -/
def powerMod (base exponent modulus : Nat) : Traced :=
  if modulus = 1 then ⟨0, []⟩
  else (binary exponent).foldl (squareMultiply (base % modulus) modulus) ⟨1, []⟩

/-! ## Forgetting the products -/

theorem value_squareMultiply (base modulus : Nat) (running : Traced) (digit : Bool) :
    (running.squareMultiply base modulus digit).value =
      Arithmetic.squareMultiply base modulus running.value digit := by
  cases digit with
  | false => rfl
  | true => rfl

theorem value_foldl (base modulus : Nat) (running : Traced) (digits : List Bool) :
    (digits.foldl (squareMultiply base modulus) running).value =
      digits.foldl (Arithmetic.squareMultiply base modulus) running.value := by
  induction digits generalizing running with
  | nil => rfl
  | cons digit later ih => rw [List.foldl_cons, ih, value_squareMultiply, List.foldl_cons]

/-- Writing the products down does not change the power. -/
theorem value_powerMod (base exponent modulus : Nat) :
    (powerMod base exponent modulus).value = Arithmetic.powerMod base exponent modulus := by
  by_cases one : modulus = 1
  · rw [powerMod, Arithmetic.powerMod, if_pos one, if_pos one]
  · rw [powerMod, Arithmetic.powerMod, if_neg one, if_neg one, value_foldl]

/-! ## How many products there are -/

/-- A digit is one product, and a digit that is set is one more. -/
theorem length_squareMultiply (base modulus : Nat) (running : Traced) (digit : Bool) :
    (running.squareMultiply base modulus digit).products.length =
      running.products.length + 1 + digit.toNat := by
  cases digit with
  | false => exact List.length_append
  | true => exact List.length_append.trans (congrArg (· + 1) List.length_append)

theorem length_foldl (base modulus : Nat) (running : Traced) (digits : List Bool) :
    (digits.foldl (squareMultiply base modulus) running).products.length =
      running.products.length + digits.length + digits.count true := by
  induction digits generalizing running with
  | nil => rfl
  | cons digit later ih =>
    rw [List.foldl_cons, ih, length_squareMultiply, List.length_cons]
    cases digit with
    | false =>
      rw [List.count_cons_of_ne Bool.false_ne_true, Bool.toNat_false]
      omega
    | true =>
      rw [List.count_cons_self, Bool.toNat_true]
      omega

/-! ## All factors are reduced -/

/-- Neither the running value nor any factor so far has reached the modulus. -/
structure Reduced (modulus : Nat) (running : Traced) : Prop where
  value_lt : running.value < modulus
  factors_lt : ∀ product ∈ running.products, product.1 < modulus ∧ product.2 < modulus

namespace Reduced

variable {base modulus : Nat} {running : Traced}

/-- A product with a reduced factor. -/
theorem times (held : Reduced modulus running) {factor : Nat} (small : factor < modulus) :
    Reduced modulus (running.times modulus factor) where
  value_lt := Nat.mod_lt _ (Nat.zero_lt_of_lt held.value_lt)
  factors_lt := by
    intro product member
    rcases List.mem_append.mp member with earlier | last
    · exact held.factors_lt product earlier
    · rw [List.mem_singleton.mp last]
      exact ⟨held.value_lt, small⟩

/-- A digit of the exponent. -/
theorem squareMultiply (held : Reduced modulus running) (small : base < modulus) (digit : Bool) :
    Reduced modulus (running.squareMultiply base modulus digit) := by
  have squared : Reduced modulus (running.times modulus running.value) := held.times held.value_lt
  cases digit with
  | false => exact squared
  | true => exact squared.times small

/-- All digits of an exponent. -/
theorem foldl (held : Reduced modulus running) (small : base < modulus) (digits : List Bool) :
    Reduced modulus (digits.foldl (Traced.squareMultiply base modulus) running) := by
  induction digits generalizing running with
  | nil => exact held
  | cons digit later ih => exact ih (held.squareMultiply small digit)

end Reduced

/-- The loop starts from one, which is reduced unless the modulus is one; then there is no loop. -/
theorem reduced_powerMod (base exponent : Nat) {modulus : Nat} (positive : 1 ≤ modulus) :
    Reduced modulus (powerMod base exponent modulus) := by
  unfold powerMod
  split
  · exact ⟨positive, fun product member => absurd member List.not_mem_nil⟩
  · rename_i notOne
    have large : 1 < modulus := by omega
    have one : Reduced modulus ⟨1, []⟩ :=
      ⟨large, fun product member => absurd member List.not_mem_nil⟩
    exact one.foldl (Nat.mod_lt base positive) (binary exponent)

end Traced

/-! ## The main result -/

/-- **Square and multiply computes the modular power from reduced factors.**  For every positive
modulus the result is the base's power, reduced.  With the products written down, the running value
is the same after any number of digits as without, and so is the result.  The loop forms one product
for each binary digit of the exponent and one more for each digit that is set.  Both factors of
every product are below the modulus, so no product reaches the square of the modulus. -/
theorem powerMod_reduced (base exponent : Nat) {modulus : Nat} (positive : 1 ≤ modulus) :
    let traced := Traced.powerMod base exponent modulus
    powerMod base exponent modulus = base ^ exponent % modulus ∧
      traced.value = powerMod base exponent modulus ∧
      (∀ count,
        (((binary exponent).take count).foldl (Traced.squareMultiply (base % modulus) modulus)
            ⟨1, []⟩).value =
          ((binary exponent).take count).foldl (squareMultiply (base % modulus) modulus) 1) ∧
      (modulus ≠ 1 →
        traced.products.length = bitLength exponent + (binary exponent).count true) ∧
      ∀ product ∈ traced.products,
        product.1 < modulus ∧ product.2 < modulus ∧ product.1 * product.2 < modulus ^ 2 := by
  intro traced
  refine ⟨powerMod_eq base exponent modulus, Traced.value_powerMod base exponent modulus,
    ?_, ?_, ?_⟩
  · intro count
    exact Traced.value_foldl (base % modulus) modulus ⟨1, []⟩ ((binary exponent).take count)
  · intro notOne
    change (Traced.powerMod base exponent modulus).products.length = _
    rw [Traced.powerMod, if_neg notOne, Traced.length_foldl, List.length_nil, Nat.zero_add,
      bitLength]
  · intro product member
    obtain ⟨first, second⟩ := (Traced.reduced_powerMod base exponent positive).factors_lt product
      member
    refine ⟨first, second, ?_⟩
    rw [Nat.pow_two]
    exact Nat.mul_lt_mul'' first second

/-- The base 10, the exponent 5 and the modulus 7: the digits 1, 0 and 1 make five products, all of
factors below seven, and the first two digits lead to 2, the square of 10 reduced. -/
theorem powerMod_reduced_modulo_7 :
    1 ≤ 7 ∧ powerMod 10 5 7 = 5 ∧
      (Traced.powerMod 10 5 7).products = [(1, 1), (1, 3), (3, 3), (2, 2), (4, 3)] ∧
      (((binary 5).take 2).foldl (Traced.squareMultiply (10 % 7) 7) ⟨1, []⟩).value = 2 ∧
      7 ≠ 1 ∧ (Traced.powerMod 10 5 7).products.length = bitLength 5 + (binary 5).count true ∧
      ∀ product ∈ (Traced.powerMod 10 5 7).products,
        product.1 < 7 ∧ product.2 < 7 ∧ product.1 * product.2 < 7 ^ 2 := by
  obtain ⟨power, -, prefixes, count, below⟩ := @powerMod_reduced 10 5 7 (by decide)
  have two : ((binary 5).take 2).foldl (squareMultiply (10 % 7) 7) 1 = 2 := by decide +kernel
  exact ⟨by decide, power, by decide +kernel, (prefixes 2).trans two, by decide, count (by decide),
    below⟩

end SealedCredentials.Arithmetic
