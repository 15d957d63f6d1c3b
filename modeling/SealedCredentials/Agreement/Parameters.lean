import SealedCredentials.Arithmetic.Operations
import SealedCredentials.Fault
import SealedCredentials.Text.Quoted

/-!
# Parameters of an agreement

A modulus and a generator.  The modulus is taken to be prime and the generator to be a
primitive root; neither is checked, and one of the two named groups has a composite modulus,
kept because deployed servers expect it.  What is checked is in the type: the range from two
to the modulus less two is never empty and holds the generator.
-/

set_option autoImplicit false

namespace SealedCredentials.Agreement

open SealedCredentials.Arithmetic

/-! ## Ranges -/

section Operations

variable {m : Type → Type} [Monad m] (operations : Operations m)

/-- Whether a value lies between a bound and the modulus less two.  A value below the bound is
not compared with the modulus. -/
def between (low value modulus : Nat) : m Bool :=
  if value < low then return false
  else do
    let high ← operations.difference modulus 2
    return decide (value ≤ high)

/-- What speaks against a modulus and a generator, if anything.  The modulus is looked at
first. -/
def objection (modulus generator : Nat) : m (Option ParameterFault) :=
  if modulus < 5 then return some .smallModulus
  else do
    let inside ← between operations 2 generator modulus
    return if inside then none else some .generatorRange

end Operations

theorem between_plain (low value modulus : Nat) :
    (between .plain low value modulus).run = decide (low ≤ value ∧ value ≤ modulus - 2) := by
  by_cases small : value < low
  · rw [between, if_pos small, decide_eq_false (by omega)]
    rfl
  · have same : decide (low ≤ value ∧ value ≤ modulus - 2) = decide (value ≤ modulus - 2) :=
      decide_eq_decide.mpr (and_iff_right (Nat.le_of_not_lt small))
    rw [between, if_neg small, same]
    rfl

theorem objection_plain (modulus generator : Nat) :
    (objection .plain modulus generator).run =
      if modulus < 5 then some .smallModulus
      else if 2 ≤ generator ∧ generator ≤ modulus - 2 then none
      else some .generatorRange := by
  by_cases small : modulus < 5
  · rw [objection, if_pos small, if_pos small]
    rfl
  · have inside : (objection .plain modulus generator).run =
        if (between .plain 2 generator modulus).run then none else some .generatorRange := by
      rw [objection, if_neg small]
      rfl
    rw [inside, between_plain, if_neg small]
    simp only [decide_eq_true_eq]

/-! ## Parameters -/

/-- A modulus of at least five and a generator that is neither trivial nor too large. -/
structure Parameters where
  modulus : Nat
  generator : Nat
  five_le_modulus : 5 ≤ modulus
  two_le_generator : 2 ≤ generator
  generator_le : generator ≤ modulus - 2
  deriving DecidableEq, Repr

namespace Parameters

/-- Nothing speaks against a modulus and a generator: they make parameters. -/
theorem bounds_of_objection {modulus generator : Nat}
    (unopposed : (objection .plain modulus generator).run = none) :
    5 ≤ modulus ∧ 2 ≤ generator ∧ generator ≤ modulus - 2 := by
  rw [objection_plain] at unopposed
  split at unopposed
  · cases unopposed
  · next large =>
    split at unopposed
    · next inside => exact ⟨Nat.le_of_not_lt large, inside⟩
    · cases unopposed

/-- Parameters of a modulus and a generator, unless something speaks against them. -/
def make (modulus generator : Nat) : Except Fault Parameters :=
  match judged : (objection .plain modulus generator).run with
  | some cause => .error (.parameters cause)
  | none =>
    let bounds := bounds_of_objection judged
    .ok ⟨modulus, generator, bounds.1, bounds.2.1, bounds.2.2⟩

/-- A value that may be a public value: trivial ones and those outside the group's range are
left out. -/
def isPublic (parameters : Parameters) (value : Nat) : Bool :=
  (between .plain 2 value parameters.modulus).run

/-- A value that may be a private exponent. -/
def isExponent (parameters : Parameters) (value : Nat) : Bool :=
  (between .plain 1 value parameters.modulus).run

end Parameters

/-! ## Named groups -/

/-- The named parameter sets. -/
inductive Group where
  /-- What deployed servers use: 192 bits. -/
  | legacy
  /-- A safe prime of 2048 bits. -/
  | modp2048
  deriving DecidableEq, Repr

namespace Group

/-- The modulus of a group. -/
def modulus : Group → Nat
  | .legacy => 0xFFFFFFFFFFFFFFFFC90FDAA22168C234C4C6628B80DC1CD1
  | .modp2048 =>
    0xFFFFFFFFFFFFFFFFC90FDAA22168C234C4C6628B80DC1CD129024E088A67CC74020BBEA63B139B22514A08798E3404DDEF9519B3CD3A431B302B0A6DF25F14374FE1356D6D51C245E485B576625E7EC6F44C42E9A637ED6B0BFF5CB6F406B7EDEE386BFB5A899FA5AE9F24117C4B1FE649286651ECE45B3DC2007CB8A163BF0598DA48361C55D39A69163FA8FD24CF5F83655D23DCA3AD961C62F356208552BB9ED529077096966D670C354E4ABC9804F1746C08CA18217C32905E462E36CE3BE39E772C180E86039B2783A2EC07A28FB5C55DF06F4C52C9DE2BCBF6955817183995497CEA956AE515D2261898FA051015728E5A8AACAA68FFFFFFFFFFFFFFFF

/-- The parameters of a group; the generator is two in both. -/
def parameters (group : Group) : Parameters where
  modulus := group.modulus
  generator := 2
  five_le_modulus := by cases group <;> decide
  two_le_generator := Nat.le_refl 2
  generator_le := by cases group <;> decide

/-- The canonical name of a group. -/
def name : Group → String
  | .legacy => "legacy"
  | .modp2048 => "modp2048"

/-- The group that is used unless another one is asked for. -/
def standard : Group := .legacy

/-- The group of a name; the case of ASCII letters does not matter. -/
def ofName (name : String) : Except Fault Group :=
  let lower := Text.lowerAscii name
  if lower = "legacy" then .ok .legacy
  else if lower = "modp2048" || lower = "group14" then .ok .modp2048
  else .error (.parameters (.unknownGroup lower))

end Group

end SealedCredentials.Agreement
