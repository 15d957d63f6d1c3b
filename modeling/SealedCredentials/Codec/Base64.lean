/-!
# Base64

The standard alphabet with padding, one written form per byte list.  Reading refuses every
other form: wrong symbols, missing or misplaced padding, unused bits that are not zero, and
any white space.  Positions in faults count bytes of the text that is read.
-/

set_option autoImplicit false

namespace SealedCredentials.Codec.Base64

/-! ## Symbols -/

/-- The symbol that fills up the last group. -/
def pad : UInt8 := 0x3D

/-- The symbol of a value below sixty-four. -/
def symbol (value : Nat) : UInt8 :=
  if value < 26 then UInt8.ofNat (0x41 + value)
  else if value < 52 then UInt8.ofNat (0x61 + (value - 26))
  else if value < 62 then UInt8.ofNat (0x30 + (value - 52))
  else if value = 62 then 0x2B
  else 0x2F

/-- The value of a symbol. -/
def value? (byte : UInt8) : Option Nat :=
  if 0x41 ≤ byte && byte ≤ 0x5A then some (byte.toNat - 0x41)
  else if 0x61 ≤ byte && byte ≤ 0x7A then some (byte.toNat - 0x61 + 26)
  else if 0x30 ≤ byte && byte ≤ 0x39 then some (byte.toNat - 0x30 + 52)
  else if byte = 0x2B then some 62
  else if byte = 0x2F then some 63
  else none

/-! ## Writing -/

/-- The symbols of a byte list. -/
def encode : List UInt8 → List UInt8
  | [] => []
  | [a] => [symbol (a.toNat / 4), symbol (a.toNat % 4 * 16), pad, pad]
  | [a, b] =>
    [symbol (a.toNat / 4), symbol (a.toNat % 4 * 16 + b.toNat / 16),
      symbol (b.toNat % 16 * 4), pad]
  | a :: b :: c :: rest =>
    symbol (a.toNat / 4) :: symbol (a.toNat % 4 * 16 + b.toNat / 16) ::
      symbol (b.toNat % 16 * 4 + c.toNat / 64) :: symbol (c.toNat % 64) :: encode rest

/-- The written form of a byte list as a text. -/
def text (bytes : List UInt8) : String :=
  String.ofList ((encode bytes).map fun byte => Char.ofNat byte.toNat)

/-! ## Reading -/

/-- How a text fails to be base64. -/
inductive Fault where
  /-- The byte at `offset` is no symbol, or padding where none may stand. -/
  | badSymbol (byte : UInt8) (offset : Nat)
  /-- The text ends after a group of one symbol. -/
  | badLength (length : Nat)
  /-- The last group is not filled up to four. -/
  | badPadding
  /-- The last symbol has bits that no byte uses. -/
  | badLastSymbol (byte : UInt8) (offset : Nat)
  deriving DecidableEq, Repr

/-- The wording of a fault. -/
def Fault.message : Fault → String
  | .badSymbol byte offset =>
    "Invalid symbol " ++ toString byte.toNat ++ ", offset " ++ toString offset ++ "."
  | .badLength length => "Invalid input length: " ++ toString length
  | .badPadding => "Invalid padding"
  | .badLastSymbol byte offset =>
    "Invalid last symbol " ++ toString byte.toNat ++ ", offset " ++ toString offset ++ "."

/-- The value of the symbol at `offset`. -/
def valueAt (offset : Nat) (byte : UInt8) : Except Fault Nat :=
  match value? byte with
  | some value => .ok value
  | none => .error (.badSymbol byte offset)

/-- The three bytes of a full group. -/
def group (a b c d : Nat) : List UInt8 :=
  [UInt8.ofNat (a * 4 + b / 16), UInt8.ofNat (b % 16 * 16 + c / 4),
    UInt8.ofNat (c % 4 * 64 + d)]

/-- The symbol values of the last group and how much padding follows them.  The group
begins at `offset` and the list at position `index` of the group. -/
def lastValues (offset : Nat) : Nat → List UInt8 → Except Fault (List Nat × Nat)
  | _, [] => .ok ([], 0)
  | index, byte :: rest =>
    if byte = pad then
      if index < 2 then .error (.badSymbol byte (offset + index))
      else if rest.all (· == pad) then .ok ([], rest.length + 1)
      else .error (.badSymbol pad (offset + index))
    else do
      let value ← valueAt (offset + index) byte
      let (values, padding) ← lastValues offset (index + 1) rest
      return (value :: values, padding)

/-- The bytes of the last group, which begins at `offset`. -/
def decodeLast (offset : Nat) (bytes : List UInt8) : Except Fault (List UInt8) := do
  let (values, padding) ← lastValues offset 0 bytes
  if bytes.isEmpty then
    return []
  if values.length < 2 then
    throw (.badLength (offset + values.length))
  if (values.length + padding) % 4 ≠ 0 then
    throw .badPadding
  match values with
  | [a, b] =>
    if b % 16 ≠ 0 then
      throw (.badLastSymbol (symbol b) (offset + 1))
    return [UInt8.ofNat (a * 4 + b / 16)]
  | [a, b, c] =>
    if c % 4 ≠ 0 then
      throw (.badLastSymbol (symbol c) (offset + 2))
    return [UInt8.ofNat (a * 4 + b / 16), UInt8.ofNat (b % 16 * 16 + c / 4)]
  | [a, b, c, d] => return group a b c d
  | _ => return []

/-- The bytes of the groups from `offset` on.  A group is the last one when no byte follows
its fourth. -/
def decodeFrom (offset : Nat) : List UInt8 → Except Fault (List UInt8)
  | a :: b :: c :: d :: e :: rest => do
    let first ← valueAt offset a
    let second ← valueAt (offset + 1) b
    let third ← valueAt (offset + 2) c
    let fourth ← valueAt (offset + 3) d
    let bytes ← decodeFrom (offset + 4) (e :: rest)
    return group first second third fourth ++ bytes
  | bytes => decodeLast offset bytes

/-- The bytes that a text spells.  A last byte that stands alone in its group is looked at
before all others. -/
def decode (bytes : List UInt8) : Except Fault (List UInt8) :=
  match bytes.getLast? with
  | some byte =>
    if bytes.length % 4 = 1 && byte != pad && (value? byte).isNone then
      .error (.badSymbol byte (bytes.length - 1))
    else decodeFrom 0 bytes
  | none => .ok []

end SealedCredentials.Codec.Base64
