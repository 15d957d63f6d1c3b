import SealedCredentials.Address.Percent
import SealedCredentials.Arithmetic.Decimal

/-!
# Hosts

A host is a name or an internet address of four or of sixteen bytes.  The notations for the
shorter kind are many: one to four numbers in decimal, octal or hexadecimal, the last of which
fills all the bytes that are left.  A name that ends in a number must be such a notation.
Names outside ASCII need tables that are not kept here and are refused.
-/

set_option autoImplicit false

namespace SealedCredentials.Address

/-- Why a text is no address. -/
inductive Fault where
  | noBase
  | rigidBase
  | emptyHost
  | badName
  | badPort
  | badFour
  | badSixteen
  | badHostCharacter
  | overflow
  deriving DecidableEq, Repr

/-- The wording of a fault. -/
def Fault.message : Fault → String
  | .noBase => "relative URL without a base"
  | .rigidBase => "relative URL with a cannot-be-a-base base"
  | .emptyHost => "empty host"
  | .badName => "invalid international domain name"
  | .badPort => "invalid port number"
  | .badFour => "invalid IPv4 address"
  | .badSixteen => "invalid IPv6 address"
  | .badHostCharacter => "invalid domain character"
  | .overflow => "URLs more than 4 GB are not supported"

/-- A host. -/
inductive Host where
  | name (text : String)
  /-- An internet address of four bytes, as a number. -/
  | four (number : Nat)
  /-- An internet address of sixteen bytes, as eight numbers. -/
  | sixteen (pieces : List Nat)
  deriving DecidableEq, Repr

/-- Whether there is no host. -/
def Host.isEmpty : Host → Bool
  | .name text => text.isEmpty
  | _ => false

/-- The pieces of a text between separators. -/
def pieces (isSeparator : Char → Bool) : List Char → List (List Char)
  | [] => [[]]
  | c :: rest =>
    if isSeparator c then [] :: pieces isSeparator rest
    else
      match pieces isSeparator rest with
      | [] => [[c]]
      | piece :: later => (c :: piece) :: later

/-! ## Four bytes -/

/-- The number of digits in a base, if all of them are digits there. -/
def numberIn (base : Nat) (digits : List Char) : Option Nat :=
  digits.foldl (fun number c => do
    let value ← Codec.Hex.value? (UInt8.ofNat c.toNat)
    if c.toNat < 0x80 && value < base then return (← number) * base + value else none) (some 0)

/-- A number in one of the notations: hexadecimal after `0x`, octal after `0`, or decimal. -/
def number? : List Char → Option Nat
  | [] => none
  | '0' :: 'x' :: digits => numberIn 16 digits
  | '0' :: 'X' :: digits => numberIn 16 digits
  | '0' :: c :: digits => numberIn 8 (c :: digits)
  | digits => numberIn 10 digits

/-- The parts of a name between full stops; one full stop at the end does not count. -/
def nameParts (name : List Char) : List (List Char) :=
  let parts := pieces (· == '.') name
  if 1 < parts.length && parts.getLast? == some [] then parts.dropLast else parts

/-- Whether a name has to be an internet address. -/
def endsInNumber (name : List Char) : Bool :=
  match (nameParts name).getLast? with
  | some last => (!last.isEmpty && last.all Arithmetic.Decimal.isDigit) || (number? last).isSome
  | none => false

/-- The internet address that a name is: every number but the last is a byte, and the last one
fills the rest. -/
def readFour (name : List Char) : Except Fault Host :=
  let parts := nameParts name
  match parts.mapM number? with
  | some numbers =>
    let leading := numbers.dropLast
    let last := numbers.getLast?.getD 0
    if 4 < parts.length || leading.any (255 < ·) || Nat.pow 256 (4 - leading.length) ≤ last then
      .error .badFour
    else
      .ok (.four (leading.foldl (fun sum number => sum * 256 + number) 0 *
        Nat.pow 256 (4 - leading.length) + last))
  | none => .error .badFour

/-- The address of four bytes as it is written. -/
def fourText (number : Nat) : String :=
  ".".intercalate
    ([16777216, 65536, 256, 1].map fun unit => Arithmetic.Decimal.ofNat (number / unit % 256))

/-! ## Sixteen bytes -/

/-- At most `most` hexadecimal digits at the head of a text: their number, whether there are
any, and what follows them. -/
def hexDigits : Nat → Nat → List Char → Nat × List Char
  | 0, number, text => (number, text)
  | _ + 1, number, [] => (number, [])
  | most + 1, number, c :: rest =>
    match numberIn 16 [c] with
    | some value => hexDigits most (number * 16 + value) rest
    | none => (number, c :: rest)

/-- A byte in decimal without needless zeros. -/
def decimalByte (digits : List Char) : Option Nat :=
  match digits with
  | '0' :: _ :: _ => none
  | [] => none
  | _ => (numberIn 10 digits).bind fun value => if value < 256 then some value else none

/-- The two pieces that four bytes in decimal make. -/
def dottedPieces (text : List Char) : Option (List Nat) :=
  match (pieces (· == '.') text).mapM decimalByte with
  | some [a, b, c, d] => some [a * 256 + b, c * 256 + d]
  | _ => none

/-- The pieces of a text with room for so many, and the place of the gap if there is one.
The gap takes the room of a piece. -/
def readPieces : Nat → List Nat → Option Nat → List Char → Option (List Nat × Option Nat)
  | _, values, gap, [] => some (values, gap)
  | 0, _, _, _ :: _ => none
  | room + 1, values, gap, ':' :: rest =>
    if gap.isSome then none else readPieces room values (some values.length) rest
  | room + 1, values, gap, text =>
    let (value, rest) := hexDigits 4 0 text
    match rest with
    | [] => some (values ++ [value], gap)
    | '.' :: _ =>
      if room = 0 then none
      else (dottedPieces text).map fun last => (values ++ last, gap)
    | [':'] => none
    | ':' :: later =>
      if rest.length = text.length then none else readPieces room (values ++ [value]) gap later
    | _ => none

/-- The eight pieces of a text between brackets. -/
def readSixteen (text : List Char) : Except Fault Host :=
  let read :=
    match text with
    | ':' :: ':' :: rest => readPieces 7 [] (some 0) rest
    | ':' :: _ => none
    | _ => readPieces 8 [] none text
  match read with
  | some (values, some gap) =>
    .ok (.sixteen (values.take gap ++ List.replicate (8 - values.length) 0 ++ values.drop gap))
  | some (values, none) =>
    if values.length = 8 then .ok (.sixteen values) else .error .badSixteen
  | none => .error .badSixteen

/-- The first of the longest runs of zeros: where it begins, and its length. -/
def longestRun (values : List Nat) : Nat × Nat :=
  (List.range values.length).foldl (fun best start =>
    let length := ((values.drop start).takeWhile (· == 0)).length
    if best.2 < length then (start, length) else best) (0, 0)

/-- Numbers in hexadecimal with colons between them. -/
def colonText (values : List Nat) : String :=
  ":".intercalate (values.map fun value => String.ofList (Nat.toDigits 16 value))

/-- The address of sixteen bytes as it is written: the longest run of at least two zeros is
left out. -/
def sixteenText (values : List Nat) : String :=
  let (start, length) := longestRun values
  if 2 ≤ length then
    colonText (values.take start) ++ "::" ++ colonText (values.drop (start + length))
  else colonText values

/-! ## Hosts as texts -/

/-- A character that no name may hold. -/
def isForbiddenInName (c : Char) : Bool :=
  isControl c || 0x80 ≤ c.toNat ||
    [' ', '#', '%', '/', ':', '<', '>', '?', '@', '[', '\\', ']', '^', '|'].contains c

/-- A character that no host may hold, whatever the scheme. -/
def isForbiddenInHost (c : Char) : Bool :=
  ['\x00', '\t', '\n', '\r', ' ', '#', '/', ':', '<', '>', '?', '@', '[', '\\', ']', '^',
    '|'].contains c

/-- The text between brackets, if brackets enclose the whole. -/
def unbracketed (text : List Char) : Option (List Char) :=
  match text with
  | '[' :: rest => if rest.getLast? == some ']' then some rest.dropLast else none
  | _ => none

/-- The host of a scheme whose hosts are names on the internet. -/
def readNamed (text : List Char) : Except Fault Host :=
  if text.head? == some '[' then
    match unbracketed text with
    | some inner => readSixteen inner
    | none => .error .badSixteen
  else
    let name := (decode (Text.Utf8.encode text)).map fun byte => (Char.ofNat byte.toNat).toLower
    if name.isEmpty then .error .emptyHost
    else if name.any isForbiddenInName then .error .badName
    else if endsInNumber name then readFour name
    else .ok (.name (String.ofList name))

/-- The host of any other scheme. -/
def readUnnamed (text : List Char) : Except Fault Host :=
  if text.head? == some '[' then
    match unbracketed text with
    | some inner => readSixteen inner
    | none => .error .badSixteen
  else if text.any isForbiddenInHost then .error .badHostCharacter
  else .ok (.name (String.ofList (encode .plain text)))

/-- A host as it is written. -/
def Host.text : Host → String
  | .name text => text
  | .four number => fourText number
  | .sixteen values => "[" ++ sixteenText values ++ "]"

end SealedCredentials.Address
