import SealedCredentials.Codec.Hex

/-!
# Identifiers

A channel has an identifier, drawn at random, by which it can be told from others.  It plays
no part in what the channel does.
-/

set_option autoImplicit false

namespace SealedCredentials.Channel

/-- The sixteen bytes of an identifier: six bits say that it was drawn at random, the others
are those of a random number. -/
def identifierBytes (random : Nat) : List UInt8 :=
  (List.range 16).map fun place =>
    let byte := random / Nat.pow 256 place % 256
    UInt8.ofNat
      (if place = 6 then 0x40 + byte % 16 else if place = 8 then 0x80 + byte % 64 else byte)

/-- The identifier that a random number selects: digits in five groups. -/
def identifier (random : Nat) : String :=
  let bytes := identifierBytes random
  "-".intercalate
    ([(0, 4), (4, 2), (6, 2), (8, 2), (10, 6)].map fun (start, length) =>
      Codec.Hex.encode ((bytes.drop start).take length))

end SealedCredentials.Channel
