import SealedCredentials.Text.Quoted

/-!
# Hexadecimal bytes

Two digits per byte, the high half first.  Writing uses lower case; reading takes both
cases and names the first byte of the text that is no digit.
-/

set_option autoImplicit false

namespace SealedCredentials.Codec.Hex

/-- How a text fails to be hexadecimal bytes. -/
inductive Fault where
  | oddLength
  | badDigit (byte : UInt8) (index : Nat)
  deriving DecidableEq, Repr

/-- The wording of a fault; the byte is shown as the character of that number. -/
def Fault.message : Fault → String
  | .oddLength => "Odd number of digits"
  | .badDigit byte index =>
    "Invalid character " ++ Text.quotedChar (Char.ofNat byte.toNat) ++ " at position " ++
      toString index

/-- The digit of a value below sixteen. -/
def digit (value : Nat) : Char :=
  if value < 10 then Char.ofNat (0x30 + value) else Char.ofNat (0x61 + (value - 10))

/-- The value of a digit. -/
def value? (byte : UInt8) : Option Nat :=
  if 0x30 ≤ byte && byte ≤ 0x39 then some (byte.toNat - 0x30)
  else if 0x41 ≤ byte && byte ≤ 0x46 then some (byte.toNat - 0x41 + 10)
  else if 0x61 ≤ byte && byte ≤ 0x66 then some (byte.toNat - 0x61 + 10)
  else none

/-- The two digits of a byte. -/
def ofByte (byte : UInt8) : List Char := [digit (byte.toNat / 16), digit (byte.toNat % 16)]

/-- The digits of a byte list. -/
def encode (bytes : List UInt8) : String := String.ofList (bytes.flatMap ofByte)

/-- The value of the digit at `index`. -/
def digitAt (index : Nat) (byte : UInt8) : Except Fault Nat :=
  match value? byte with
  | some value => .ok value
  | none => .error (.badDigit byte index)

/-- The bytes that a list of digits spells, the first digit standing at `index`. -/
def decodeFrom (index : Nat) : List UInt8 → Except Fault (List UInt8)
  | high :: low :: rest => do
    let upper ← digitAt index high
    let lower ← digitAt (index + 1) low
    let bytes ← decodeFrom (index + 2) rest
    return UInt8.ofNat (upper * 16 + lower) :: bytes
  | _ => .ok []

/-- The bytes that digits spell.  An odd count is reported before any bad digit. -/
def decode (digits : List UInt8) : Except Fault (List UInt8) :=
  if digits.length % 2 = 1 then .error .oddLength else decodeFrom 0 digits

end SealedCredentials.Codec.Hex
