import SealedCredentials.Digest.Padding

/-!
# The SHA-256 digest

Thirty-two bytes from any message.  Key material is the digest of the agreed secret.
-/

set_option autoImplicit false

namespace SealedCredentials.Digest.Sha256

/-- The chaining value: eight words. -/
structure State where
  a : UInt32
  b : UInt32
  c : UInt32
  d : UInt32
  e : UInt32
  f : UInt32
  g : UInt32
  h : UInt32
  deriving DecidableEq, Repr

/-- The chaining value before the first block: the fractional digits of the square roots of
the first eight primes. -/
def initial : State :=
  ⟨0x6A09E667, 0xBB67AE85, 0x3C6EF372, 0xA54FF53A,
    0x510E527F, 0x9B05688C, 0x1F83D9AB, 0x5BE0CD19⟩

/-- The added constant of each round: the fractional digits of the cube roots of the first
sixty-four primes. -/
def constants : List UInt32 := [
  0x428A2F98, 0x71374491, 0xB5C0FBCF, 0xE9B5DBA5, 0x3956C25B, 0x59F111F1,
  0x923F82A4, 0xAB1C5ED5, 0xD807AA98, 0x12835B01, 0x243185BE, 0x550C7DC3,
  0x72BE5D74, 0x80DEB1FE, 0x9BDC06A7, 0xC19BF174, 0xE49B69C1, 0xEFBE4786,
  0x0FC19DC6, 0x240CA1CC, 0x2DE92C6F, 0x4A7484AA, 0x5CB0A9DC, 0x76F988DA,
  0x983E5152, 0xA831C66D, 0xB00327C8, 0xBF597FC7, 0xC6E00BF3, 0xD5A79147,
  0x06CA6351, 0x14292967, 0x27B70A85, 0x2E1B2138, 0x4D2C6DFC, 0x53380D13,
  0x650A7354, 0x766A0ABB, 0x81C2C92E, 0x92722C85, 0xA2BFE8A1, 0xA81A664B,
  0xC24B8B70, 0xC76C51A3, 0xD192E819, 0xD6990624, 0xF40E3585, 0x106AA070,
  0x19A4C116, 0x1E376C08, 0x2748774C, 0x34B0BCB5, 0x391C0CB3, 0x4ED8AA4A,
  0x5B9CCA4F, 0x682E6FF3, 0x748F82EE, 0x78A5636F, 0x84C87814, 0x8CC70208,
  0x90BEFFFA, 0xA4506CEB, 0xBEF9A3F7, 0xC67178F2
]

/-- One round with the scheduled word and the constant of the round. -/
def advance (state : State) (word constant : UInt32) : State :=
  let high := turnRight state.e 6 ^^^ turnRight state.e 11 ^^^ turnRight state.e 25
  let choice := (state.e &&& state.f) ^^^ (~~~state.e &&& state.g)
  let first := state.h + high + choice + constant + word
  let low := turnRight state.a 2 ^^^ turnRight state.a 13 ^^^ turnRight state.a 22
  let majority := (state.a &&& state.b) ^^^ (state.a &&& state.c) ^^^ (state.b &&& state.c)
  ⟨first + low + majority, state.a, state.b, state.c, state.d + first, state.e, state.f,
    state.g⟩

/-- The word that joins the schedule sixteen places after the head of `window`. -/
def scheduled (window : List UInt32) : UInt32 :=
  let near := window.getD 1 0
  let far := window.getD 14 0
  (turnRight far 17 ^^^ turnRight far 19 ^^^ far >>> 10) + window.getD 9 0 +
    (turnRight near 7 ^^^ turnRight near 18 ^^^ near >>> 3) + window.getD 0 0

/-- The rounds with the given constants; `window` holds the next sixteen words of the
schedule. -/
def rounds : List UInt32 → List UInt32 → State → State
  | constant :: later, window, state =>
    rounds later (window.drop 1 ++ [scheduled window])
      (advance state (window.getD 0 0) constant)
  | [], _, state => state

/-- The chaining value after a block of sixteen words. -/
def compress (state : State) (block : List UInt32) : State :=
  let last := rounds constants block state
  ⟨state.a + last.a, state.b + last.b, state.c + last.c, state.d + last.d,
    state.e + last.e, state.f + last.f, state.g + last.g, state.h + last.h⟩

/-- The length of a message in bits, highest byte first, without what exceeds 64 bits. -/
def lengthField (length : Nat) : List UInt8 :=
  let bits := length * 8
  highFirst (UInt32.ofNat (bits / Nat.pow 2 32)) ++ highFirst (UInt32.ofNat bits)

/-- The thirty-two bytes of a chaining value. -/
def State.bytes (state : State) : List UInt8 :=
  highFirst state.a ++ highFirst state.b ++ highFirst state.c ++ highFirst state.d ++
    highFirst state.e ++ highFirst state.f ++ highFirst state.g ++ highFirst state.h

/-- The digest of a message. -/
def hash (message : List UInt8) : List UInt8 :=
  (absorb compress initial
    (words ofHighFirst (padded message (lengthField message.length)))).bytes

/-- A digest has thirty-two bytes. -/
@[simp] theorem length_hash (message : List UInt8) : (hash message).length = 32 := rfl

end SealedCredentials.Digest.Sha256
