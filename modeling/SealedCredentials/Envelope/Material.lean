import SealedCredentials.Agreement.KeyPair
import SealedCredentials.Digest.Sha256

/-!
# Key material

Thirty-two bytes that both sides hold after an agreement: the digest of the secret's decimal
text.  Salts are eight bytes drawn anew for every envelope.
-/

set_option autoImplicit false

namespace SealedCredentials.Envelope

/-- Thirty-two bytes from which the keys of envelopes are stretched. -/
structure Material where
  bytes : List UInt8
  length_bytes : bytes.length = 32
  deriving DecidableEq, Repr

namespace Material

/-- The material of a shared secret. -/
def ofSecret (secret : Agreement.SharedSecret) : Material :=
  ⟨Digest.Sha256.hash (Text.Utf8.ofString secret.decimal), Digest.Sha256.length_hash _⟩

/-- The material of a list of exactly thirty-two bytes. -/
def ofBytes (bytes : List UInt8) : Except Fault Material :=
  if length : bytes.length = 32 then .ok ⟨bytes, length⟩
  else .error (.keyLength 32 bytes.length)

/-- The material that 64 hexadecimal digits spell. -/
def ofHex (digits : String) : Except Fault Material :=
  match Codec.Hex.decode (Text.Utf8.ofString digits) with
  | .ok bytes => ofBytes bytes
  | .error cause => .error (.integer (.hexadecimal cause))

/-- The digits of the material. -/
def hex (material : Material) : String := Codec.Hex.encode material.bytes

/-- What may be shown of the material: nothing. -/
def summary (_ : Material) : String := "DerivedKeyMaterial(..)"

end Material

/-- Eight bytes that make the keys of an envelope its own. -/
structure Salt where
  bytes : List UInt8
  length_bytes : bytes.length = 8
  deriving DecidableEq, Repr

namespace Salt

/-- The salt of a list of exactly eight bytes. -/
def ofBytes? (bytes : List UInt8) : Option Salt :=
  if length : bytes.length = 8 then some ⟨bytes, length⟩ else none

/-- The salt that a random number selects: its lowest 64 bits. -/
def ofRandom (random : Nat) : Salt :=
  ⟨(List.range 8).map fun place => UInt8.ofNat (random / Nat.pow 256 place), rfl⟩

end Salt

end SealedCredentials.Envelope
