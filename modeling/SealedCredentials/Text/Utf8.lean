/-!
# UTF-8

Texts travel as bytes.  `encode` writes each character in its one shortest form; `decode`
reads exactly those forms back and says where and how a byte list fails to be one:
overlong forms, surrogates, points beyond the last one and cut-off sequences are all
refused.  `decodeLossy` reads any byte list and puts a replacement character for each
longest part that could have begun a character.
-/

set_option autoImplicit false

namespace SealedCredentials.Text.Utf8

/-! ## Writing -/

/-- The bytes of one character. -/
def encodeChar (c : Char) : List UInt8 :=
  let point := c.toNat
  if point < 0x80 then
    [UInt8.ofNat point]
  else if point < 0x800 then
    [UInt8.ofNat (0xC0 + point / 0x40), UInt8.ofNat (0x80 + point % 0x40)]
  else if point < 0x10000 then
    [UInt8.ofNat (0xE0 + point / 0x1000), UInt8.ofNat (0x80 + point / 0x40 % 0x40),
      UInt8.ofNat (0x80 + point % 0x40)]
  else
    [UInt8.ofNat (0xF0 + point / 0x40000), UInt8.ofNat (0x80 + point / 0x1000 % 0x40),
      UInt8.ofNat (0x80 + point / 0x40 % 0x40), UInt8.ofNat (0x80 + point % 0x40)]

/-- The bytes of a list of characters. -/
def encode (characters : List Char) : List UInt8 := characters.flatMap encodeChar

/-- The bytes of a text. -/
def ofString (text : String) : List UInt8 := encode text.toList

/-! ## Reading -/

/-- How a byte list fails to be UTF-8. -/
inductive Fault where
  /-- The `length` bytes from `index` on begin no character. -/
  | invalid (length index : Nat)
  /-- The bytes from `index` on begin a character that the end cuts off. -/
  | incomplete (index : Nat)
  deriving DecidableEq, Repr

/-- The wording of a fault. -/
def Fault.message : Fault → String
  | .invalid length index =>
    "invalid utf-8 sequence of " ++ toString length ++ " bytes from index " ++ toString index
  | .incomplete index => "incomplete utf-8 byte sequence from index " ++ toString index

/-- A byte that continues a character. -/
def isTail (byte : UInt8) : Bool := 0x80 ≤ byte && byte ≤ 0xBF

/-- A byte that may stand second after the lead byte of a longer form: it rules out
overlong forms, surrogates and points beyond the last one. -/
def isSecond (lead byte : UInt8) : Bool :=
  (if lead = 0xE0 then 0xA0 else if lead = 0xF0 then 0x90 else 0x80) ≤ byte &&
    byte ≤ (if lead = 0xED then 0x9F else if lead = 0xF4 then 0x8F else 0xBF)

/-- What the payload bits of a sequence spell. -/
def spell (lead : Nat) (tails : List UInt8) : Char :=
  Char.ofNat (tails.foldl (fun point byte => point * 0x40 + (byte.toNat - 0x80)) lead)

/-- The character at the head of a byte list that stands at `index`, and the bytes after
it. -/
def next (index : Nat) : List UInt8 → Except Fault (Char × List UInt8)
  | [] => .error (.incomplete index)
  | a :: rest =>
    if a < 0x80 then .ok (spell a.toNat [], rest)
    else if a < 0xC2 || 0xF4 < a then .error (.invalid 1 index)
    else match rest with
    | [] => .error (.incomplete index)
    | b :: rest =>
      if !isSecond a b then .error (.invalid 1 index)
      else if a < 0xE0 then .ok (spell (a.toNat - 0xC0) [b], rest)
      else match rest with
      | [] => .error (.incomplete index)
      | c :: rest =>
        if !isTail c then .error (.invalid 2 index)
        else if a < 0xF0 then .ok (spell (a.toNat - 0xE0) [b, c], rest)
        else match rest with
        | [] => .error (.incomplete index)
        | d :: rest =>
          if !isTail d then .error (.invalid 3 index)
          else .ok (spell (a.toNat - 0xF0) [b, c, d], rest)

/-- Reading a character uses up at least one byte. -/
theorem next_length_lt {index : Nat} {bytes rest : List UInt8} {c : Char}
    (read : next index bytes = .ok (c, rest)) : rest.length < bytes.length := by
  unfold next at read
  repeat' split at read
  all_goals simp_all
  all_goals (obtain ⟨-, rfl⟩ := read; omega)

/-- The characters of a byte list whose first byte stands at `index`. -/
def decodeFrom (index : Nat) (bytes : List UInt8) : Except Fault (List Char) :=
  if bytes.isEmpty then .ok []
  else match read : next index bytes with
    | .error fault => .error fault
    | .ok (c, rest) =>
      have := next_length_lt read
      (decodeFrom (index + (bytes.length - rest.length)) rest).map (c :: ·)
  termination_by bytes.length

/-- The characters that a byte list spells. -/
def decode (bytes : List UInt8) : Except Fault (List Char) := decodeFrom 0 bytes

/-- The text that a byte list spells. -/
def toString? (bytes : List UInt8) : Except Fault String := (decode bytes).map String.ofList

/-! ## Reading anything -/

/-- How many bytes a fault makes unreadable. -/
def Fault.span (available : Nat) : Fault → Nat
  | .invalid length _ => length
  | .incomplete _ => available

/-- The characters of a byte list, each unreadable part shown as one replacement
character. -/
def decodeLossy (bytes : List UInt8) : List Char :=
  if bytes.isEmpty then []
  else match read : next 0 bytes with
    | .error fault =>
      '\uFFFD' :: decodeLossy (bytes.drop (max 1 (fault.span bytes.length)))
    | .ok (c, rest) =>
      have := next_length_lt read
      c :: decodeLossy rest
  termination_by bytes.length
  decreasing_by
    · have : bytes.length ≠ 0 := by simp_all
      simp only [List.length_drop]
      omega
    · assumption

end SealedCredentials.Text.Utf8
