import SealedCredentials.Agreement.Parameters

/-!
# Key pairs and shared secrets

Each side keeps a private exponent and publishes the generator's power.  The secret is the
other side's public value to the power of one's own exponent; trivial public values are
refused, since they would fix the secret whatever the exponent.  All of this is written over any
operations; the program uses the plain ones.
-/

set_option autoImplicit false

namespace SealedCredentials.Agreement

open SealedCredentials.Arithmetic

/-! ## Stored exponents -/

/-- The bytes of a number put in front of `bytes`, the highest first. -/
def bytesOnto (number : Nat) (bytes : List UInt8) : List UInt8 :=
  if number < 256 then UInt8.ofNat number :: bytes
  else bytesOnto (number / 256) (UInt8.ofNat (number % 256) :: bytes)

/-- The bytes of a number, the highest first. -/
def toBytes (number : Nat) : List UInt8 := bytesOnto number []

/-- The number of a byte list, the highest byte first. -/
def ofBytes (bytes : List UInt8) : Nat :=
  bytes.foldl (fun number byte => number * 256 + byte.toNat) 0

/-! ## Secrets and pairs -/

/-- The outcome of an agreement. -/
structure SharedSecret where
  value : Nat
  deriving DecidableEq, Repr

namespace SharedSecret

/-- The decimal text of a secret, from which keys are derived. -/
def decimal (secret : SharedSecret) : String := Decimal.ofNat secret.value

/-- What may be shown of a secret: its size. -/
def summary (secret : SharedSecret) : String :=
  "SharedSecret \x7b bits: " ++ toString (bitLength secret.value) ++ ", .. \x7d"

end SharedSecret

/-- One side of an agreement.  The exponent is kept as bytes, which can be wiped. -/
structure KeyPair where
  parameters : Parameters
  privateBytes : List UInt8
  publicValue : Nat
  deriving DecidableEq, Repr

namespace KeyPair

/-- The private exponent. -/
def exponent (pair : KeyPair) : Nat := ofBytes pair.privateBytes

/-! ### Over any operations -/

section Operations

variable {m : Type → Type} [Monad m] (operations : Operations m)

/-- The generator's power, computed anew. -/
def recomputedBy (pair : KeyPair) : m Nat :=
  operations.power pair.parameters.generator pair.exponent pair.parameters.modulus

/-- The pair of an exponent that is known to be in range. -/
def withExponentBy (parameters : Parameters) (exponent : Nat) : m KeyPair := do
  let stored : KeyPair := ⟨parameters, toBytes exponent, 0⟩
  let publicValue ← recomputedBy operations stored
  return { stored with publicValue := publicValue }

/-- The pair of a chosen exponent. -/
def ofExponentBy (parameters : Parameters) (exponent : Nat) : m (Except Fault KeyPair) := do
  let inside ← between operations 1 exponent parameters.modulus
  if inside then
    let pair ← withExponentBy operations parameters exponent
    return .ok pair
  else return .error (.parameters .exponentRange)

/-- The pair of an exponent drawn from two to the modulus less two. -/
def generateBy (draw : Nat → Nat → Except Fault Nat) (parameters : Parameters) :
    m (Except Fault KeyPair) := do
  let top ← operations.difference parameters.modulus 1
  match draw 2 top with
  | .ok exponent =>
    let pair ← withExponentBy operations parameters exponent
    return .ok pair
  | .error fault => return .error fault

/-- The secret shared with the holder of a public value. -/
def shareBy (pair : KeyPair) (peer : Nat) : m (Except Fault SharedSecret) := do
  let inside ← between operations 2 peer pair.parameters.modulus
  if inside then
    let value ← operations.power peer pair.exponent pair.parameters.modulus
    return .ok ⟨value⟩
  else return .error .peerValue

end Operations

/-! ### Outright -/

/-- The generator's power, computed anew. -/
def recomputed (pair : KeyPair) : Nat := (recomputedBy .plain pair).run

/-- The pair of an exponent that is known to be in range. -/
def withExponent (parameters : Parameters) (exponent : Nat) : KeyPair :=
  (withExponentBy .plain parameters exponent).run

/-- The pair of a chosen exponent. -/
def ofExponent (parameters : Parameters) (exponent : Nat) : Except Fault KeyPair :=
  (ofExponentBy .plain parameters exponent).run

/-- The pair of an exponent that a random number selects. -/
def generate (parameters : Parameters) (random : Nat) : Except Fault KeyPair :=
  (generateBy .plain (drawBetween · · random) parameters).run

/-- The secret shared with the holder of a public value. -/
def share (pair : KeyPair) (peer : Nat) : Except Fault SharedSecret :=
  (shareBy .plain pair peer).run

/-! ### Texts -/

/-- The public value as it is sent. -/
def publicText (pair : KeyPair) : String := Decimal.ofNat pair.publicValue

/-- The secret shared with the holder of a public value that was sent as a text. -/
def shareText (pair : KeyPair) (peer : String) : Except Fault SharedSecret :=
  match readInteger peer with
  | .ok value => pair.share value
  | .error fault => .error fault

/-- What may be shown of a pair: its public half. -/
def summary (pair : KeyPair) : String :=
  "LocalKeyPair \x7b public_value: " ++ pair.publicText ++ ", .. \x7d"

end KeyPair

end SealedCredentials.Agreement
