import SealedCredentials.Cipher.Block

/-!
# Chained blocks with padding

A message of any length is padded to whole blocks: between one and sixteen bytes are added,
each holding their number, so that the padding can be told from the message.  Each block is
added to the enciphered block before it, the first one to an initial block, and enciphered.

Nothing here tells whether a ciphertext was changed: a changed one opens to other bytes or
fails on its padding.
-/

set_option autoImplicit false

namespace SealedCredentials.Cipher

/-! ## Padding -/

/-- A message with its padding. -/
def pad (message : List UInt8) : List UInt8 :=
  let count := 16 - message.length % 16
  message ++ List.replicate count (UInt8.ofNat count)

/-- A message without its padding.  The last byte counts the padding bytes, of which there
are between one and sixteen, all alike. -/
def unpad (padded : List UInt8) : Option (List UInt8) :=
  match padded.getLast? with
  | none => none
  | some last =>
    let count := last.toNat
    if count = 0 || 16 < count || padded.length < count then none
    else if (padded.drop (padded.length - count)).all (· == last) then
      some (padded.take (padded.length - count))
    else none

/-! ## Blocks of a byte list -/

/-- The full blocks of a byte list; a rest of fewer than sixteen bytes makes no block. -/
def blocks (bytes : List UInt8) : List Block :=
  if bytes.length < 16 then []
  else Block.ofBytes bytes :: blocks (bytes.drop 16)
  termination_by bytes.length
  decreasing_by simp only [List.length_drop]; omega

/-- The bytes of a list of blocks. -/
def joined (list : List Block) : List UInt8 := list.flatMap Block.bytes

/-! ## Chaining -/

/-- Blocks chained from `previous` on; `forward` enciphers one block. -/
def chain (forward : Block → Block) : Block → List Block → List Block
  | _, [] => []
  | previous, block :: later =>
    let sealed := forward (block.add previous)
    sealed :: chain forward sealed later

/-- The blocks behind chained ones; `backward` deciphers one block. -/
def unchain (backward : Block → Block) : Block → List Block → List Block
  | _, [] => []
  | previous, block :: later =>
    (backward block).add previous :: unchain backward block later

/-! ## Messages -/

/-- How a ciphertext fails to open. -/
inductive Fault where
  | badLength (length : Nat)
  | badPadding
  deriving DecidableEq, Repr

/-- The wording for a ciphertext that is not made of whole blocks. -/
def lengthMessage (length : Nat) : String :=
  "ciphertext length " ++ toString length ++ " is not a positive multiple of 16"

/-- The wording of a fault. -/
def Fault.message : Fault → String
  | .badLength length => lengthMessage length
  | .badPadding => "invalid padding"

/-- Whether a length is that of one or more whole blocks. -/
def isWhole (length : Nat) : Bool := length != 0 && length % 16 == 0

/-- A message encrypted under a key of 32 bytes and an initial block of sixteen. -/
def encrypt (message key initial : List UInt8) : List UInt8 :=
  joined (chain (encipher (roundKeys key)) (Block.ofBytes initial) (blocks (pad message)))

/-- The message behind a ciphertext. -/
def decrypt (ciphertext key initial : List UInt8) : Except Fault (List UInt8) :=
  if !isWhole ciphertext.length then .error (.badLength ciphertext.length)
  else
    let opened :=
      joined (unchain (decipher (roundKeys key)) (Block.ofBytes initial) (blocks ciphertext))
    match unpad opened with
    | some message => .ok message
    | none => .error .badPadding

end SealedCredentials.Cipher
