/-!
# Padding of digests

Both digests read a message in blocks of 64 bytes.  The message is closed by one set bit, as
many zeros as the last block needs, and its length in bits.
-/

set_option autoImplicit false

namespace SealedCredentials.Digest

/-- How many zero bytes stand between the closing bit and the length. -/
def zeroCount (length : Nat) : Nat := (119 - length % 64) % 64

/-- A message closed with `lengthField`, the eight bytes of its length. -/
def padded (message lengthField : List UInt8) : List UInt8 :=
  message ++ 0x80 :: (List.replicate (zeroCount message.length) 0 ++ lengthField)

/-- The bytes of a word, the highest first. -/
def highFirst (word : UInt32) : List UInt8 :=
  [(word >>> 24).toUInt8, (word >>> 16).toUInt8, (word >>> 8).toUInt8, word.toUInt8]

/-- The bytes of a word, the lowest first. -/
def lowFirst (word : UInt32) : List UInt8 :=
  [word.toUInt8, (word >>> 8).toUInt8, (word >>> 16).toUInt8, (word >>> 24).toUInt8]

/-- The words of a byte list, four bytes each, `combine` giving a word its bytes in order.
A rest of fewer than four bytes makes no word. -/
def words (combine : UInt8 → UInt8 → UInt8 → UInt8 → UInt32) : List UInt8 → List UInt32
  | a :: b :: c :: d :: rest => combine a b c d :: words combine rest
  | _ => []

/-- The word of four bytes, the first one highest. -/
def ofHighFirst (a b c d : UInt8) : UInt32 :=
  a.toUInt32 <<< 24 ||| b.toUInt32 <<< 16 ||| c.toUInt32 <<< 8 ||| d.toUInt32

/-- The word of four bytes, the first one lowest. -/
def ofLowFirst (a b c d : UInt8) : UInt32 := ofHighFirst d c b a

/-- A state taken through all full groups of sixteen words. -/
def absorb {State : Type} (compress : State → List UInt32 → State) (state : State)
    (message : List UInt32) : State :=
  if message.length < 16 then state
  else absorb compress (compress state (message.take 16)) (message.drop 16)
  termination_by message.length
  decreasing_by simp only [List.length_drop]; omega

/-- A word turned to the left by `count` bits, which lies between one and 31. -/
def turnLeft (word : UInt32) (count : UInt32) : UInt32 :=
  word <<< count ||| word >>> (32 - count)

/-- A word turned to the right by `count` bits, which lies between one and 31. -/
def turnRight (word : UInt32) (count : UInt32) : UInt32 := turnLeft word (32 - count)

end SealedCredentials.Digest
