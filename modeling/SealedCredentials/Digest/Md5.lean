import SealedCredentials.Digest.Padding

/-!
# The MD5 digest

Sixteen bytes from any message.  It serves to stretch key material and for nothing that
needs collision resistance.
-/

set_option autoImplicit false

namespace SealedCredentials.Digest.Md5

/-- The chaining value: four words. -/
structure State where
  a : UInt32
  b : UInt32
  c : UInt32
  d : UInt32
  deriving DecidableEq, Repr

/-- The chaining value before the first block. -/
def initial : State := ⟨0x67452301, 0xEFCDAB89, 0x98BADCFE, 0x10325476⟩

/-- The added constant of each step: the fractional digits of the sine of the step's number,
which counts from one. -/
def constants : List UInt32 := [
  0xD76AA478, 0xE8C7B756, 0x242070DB, 0xC1BDCEEE, 0xF57C0FAF, 0x4787C62A,
  0xA8304613, 0xFD469501, 0x698098D8, 0x8B44F7AF, 0xFFFF5BB1, 0x895CD7BE,
  0x6B901122, 0xFD987193, 0xA679438E, 0x49B40821, 0xF61E2562, 0xC040B340,
  0x265E5A51, 0xE9B6C7AA, 0xD62F105D, 0x02441453, 0xD8A1E681, 0xE7D3FBC8,
  0x21E1CDE6, 0xC33707D6, 0xF4D50D87, 0x455A14ED, 0xA9E3E905, 0xFCEFA3F8,
  0x676F02D9, 0x8D2A4C8A, 0xFFFA3942, 0x8771F681, 0x6D9D6122, 0xFDE5380C,
  0xA4BEEA44, 0x4BDECFA9, 0xF6BB4B60, 0xBEBFBC70, 0x289B7EC6, 0xEAA127FA,
  0xD4EF3085, 0x04881D05, 0xD9D4D039, 0xE6DB99E5, 0x1FA27CF8, 0xC4AC5665,
  0xF4292244, 0x432AFF97, 0xAB9423A7, 0xFC93A039, 0x655B59C3, 0x8F0CCC92,
  0xFFEFF47D, 0x85845DD1, 0x6FA87E4F, 0xFE2CE6E0, 0xA3014314, 0x4E0811A1,
  0xF7537E82, 0xBD3AF235, 0x2AD7D2BB, 0xEB86D391
]

/-- The left turn of a step. -/
def turn (step : Nat) : UInt32 :=
  match step / 16, step % 4 with
  | 0, 0 => 7 | 0, 1 => 12 | 0, 2 => 17 | 0, _ => 22
  | 1, 0 => 5 | 1, 1 => 9 | 1, 2 => 14 | 1, _ => 20
  | 2, 0 => 4 | 2, 1 => 11 | 2, 2 => 16 | 2, _ => 23
  | _, 0 => 6 | _, 1 => 10 | _, 2 => 15 | _, _ => 21

/-- Which word of the block a step reads. -/
def wordIndex (step : Nat) : Nat :=
  match step / 16 with
  | 0 => step
  | 1 => (5 * step + 1) % 16
  | 2 => (3 * step + 5) % 16
  | _ => 7 * step % 16

/-- The bitwise function of a step. -/
def mix (step : Nat) (state : State) : UInt32 :=
  match step / 16 with
  | 0 => (state.b &&& state.c) ||| (~~~state.b &&& state.d)
  | 1 => (state.d &&& state.b) ||| (~~~state.d &&& state.c)
  | 2 => state.b ^^^ state.c ^^^ state.d
  | _ => state.c ^^^ (state.b ||| ~~~state.d)

/-- One step on a block. -/
def advance (block : Array UInt32) (state : State) (step : Nat) (constant : UInt32) : State :=
  let sum := state.a + mix step state + constant + block.getD (wordIndex step) 0
  ⟨state.d, state.b + turnLeft sum (turn step), state.b, state.c⟩

/-- The chaining value after a block of sixteen words. -/
def compress (state : State) (block : List UInt32) : State :=
  let read := block.toArray
  let last := constants.zipIdx.foldl
    (fun current (constant, step) => advance read current step constant) state
  ⟨state.a + last.a, state.b + last.b, state.c + last.c, state.d + last.d⟩

/-- The length of a message in bits, lowest byte first, without what exceeds 64 bits. -/
def lengthField (length : Nat) : List UInt8 :=
  let bits := length * 8
  lowFirst (UInt32.ofNat bits) ++ lowFirst (UInt32.ofNat (bits / Nat.pow 2 32))

/-- The sixteen bytes of a chaining value. -/
def State.bytes (state : State) : List UInt8 :=
  lowFirst state.a ++ lowFirst state.b ++ lowFirst state.c ++ lowFirst state.d

/-- The digest of a message. -/
def hash (message : List UInt8) : List UInt8 :=
  (absorb compress initial
    (words ofLowFirst (padded message (lengthField message.length)))).bytes

/-- A digest has sixteen bytes. -/
@[simp] theorem length_hash (message : List UInt8) : (hash message).length = 16 := rfl

end SealedCredentials.Digest.Md5
