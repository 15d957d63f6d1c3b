import SealedCredentials.Codec.Hex
import SealedCredentials.Text.Utf8

/-!
# Percent encoding

A character that may not stand in a part of an address is written byte by byte, each byte as
a percent sign and two digits.  Which ones these are depends on the part; characters outside
ASCII may stand nowhere.  A percent sign itself is left alone, so encoding does not touch what
is encoded already.
-/

set_option autoImplicit false

namespace SealedCredentials.Address

/-- Parts of an address, by the characters that may not stand in them. -/
inductive Part where
  | plain
  | fragment
  | path
  | credentials
  /-- A query, of a scheme for which an apostrophe may not stand in it or of another one. -/
  | query (special : Bool)
  deriving DecidableEq, Repr

/-- A character that may stand in no part: a control. -/
def isControl (c : Char) : Bool := c.toNat < 0x20 || c.toNat == 0x7F

namespace Part

/-- The characters besides controls that may not stand in a part. -/
def excluded : Part → List Char
  | .plain => []
  | .fragment => [' ', '"', '<', '>', '`']
  | .path => [' ', '"', '<', '>', '`', '#', '?', '{', '}']
  | .credentials =>
    [' ', '"', '<', '>', '`', '#', '?', '{', '}', '/', ':', ';', '=', '@', '[', '\\', ']', '^',
      '|']
  | .query special => [' ', '"', '#', '<', '>'] ++ if special then ['\''] else []

/-- Whether a character is written byte by byte in a part. -/
def escapes (part : Part) (c : Char) : Bool :=
  isControl c || 0x80 ≤ c.toNat || part.excluded.contains c

end Part

/-- A byte as a percent sign and two digits. -/
def percentByte (byte : UInt8) : List Char :=
  '%' :: (Codec.Hex.ofByte byte).map Char.toUpper

/-- A text as it is written in a part. -/
def encode (part : Part) (characters : List Char) : List Char :=
  characters.flatMap fun c =>
    if part.escapes c then (Text.Utf8.encodeChar c).flatMap percentByte else [c]

/-- The bytes that a percent encoded text stands for.  A percent sign without two digits after
it stands for itself. -/
def decode : List UInt8 → List UInt8
  | [] => []
  | [byte] => [byte]
  | [first, second] => [first, second]
  | 0x25 :: high :: low :: rest =>
    match Codec.Hex.value? high, Codec.Hex.value? low with
    | some upper, some lower => UInt8.ofNat (upper * 16 + lower) :: decode rest
    | _, _ => 0x25 :: decode (high :: low :: rest)
  | byte :: rest => byte :: decode rest

end SealedCredentials.Address
