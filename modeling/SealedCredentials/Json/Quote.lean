import SealedCredentials.Json.Value

/-!
# Strings in JSON texts

Writing escapes the quote, the backslash and the controls, and nothing else.  Reading takes
every escape of the format and, when it is strict, insists that the two halves of a pair come
together; when it is not, it only checks the spelling, which is all that is needed to step
over a string.
-/

set_option autoImplicit false

namespace SealedCredentials.Json

/-! ## Writing -/

/-- A character inside a written string. -/
def writeChar (c : Char) : List Char :=
  if c = '"' then ['\\', '"']
  else if c = '\\' then ['\\', '\\']
  else if c = '\x08' then ['\\', 'b']
  else if c = '\x0c' then ['\\', 'f']
  else if c = '\n' then ['\\', 'n']
  else if c = '\r' then ['\\', 'r']
  else if c = '\t' then ['\\', 't']
  else if c.toNat < 0x20 then
    ['\\', 'u', '0', '0', if c.toNat < 0x10 then '0' else '1',
      Char.ofNat (if c.toNat % 0x10 < 10 then 0x30 + c.toNat % 0x10 else 0x57 + c.toNat % 0x10)]
  else [c]

/-- A string with its quotes. -/
def writeString (text : List Char) : List Char :=
  '"' :: text.flatMap writeChar ++ ['"']

/-! ## Reading -/

/-- Where reading stands inside a string. -/
inductive Mode where
  | plain
  /-- After a backslash; `high` is the first half of a pair that waits for its second. -/
  | escape (high : Option Nat)
  /-- Inside a numeric escape of which `left + 1` digits are still to come. -/
  | digits (high : Option Nat) (left value : Nat)
  /-- After the first half of a pair, where a backslash must follow. -/
  | paired (high : Nat)
  deriving DecidableEq, Repr

/-- The character of a one-letter escape. -/
def unescape? (letter : Char) : Option Char :=
  if letter = '"' then some '"'
  else if letter = '\\' then some '\\'
  else if letter = '/' then some '/'
  else if letter = 'b' then some '\x08'
  else if letter = 'f' then some '\x0c'
  else if letter = 'n' then some '\n'
  else if letter = 'r' then some '\r'
  else if letter = 't' then some '\t'
  else none

/-- The value of a hexadecimal digit. -/
def hexValue? (c : Char) : Option Nat :=
  if '0' ≤ c && c ≤ '9' then some (c.toNat - 0x30)
  else if 'a' ≤ c && c ≤ 'f' then some (c.toNat - 0x57)
  else if 'A' ≤ c && c ≤ 'F' then some (c.toNat - 0x37)
  else none

/-- What a finished numeric escape amounts to. -/
inductive Finished where
  | character (c : Char)
  | firstHalf (value : Nat)
  | refused
  deriving DecidableEq, Repr

/-- The outcome of a numeric escape of `value` after the first half `high`. -/
def finish (strict : Bool) (high : Option Nat) (value : Nat) : Finished :=
  if !strict then .character '\uFFFD'
  else match high with
  | some first =>
    if 0xDC00 ≤ value && value ≤ 0xDFFF then
      .character (Char.ofNat (0x10000 + (first - 0xD800) * 0x400 + (value - 0xDC00)))
    else .refused
  | none =>
    if 0xD800 ≤ value && value ≤ 0xDBFF then .firstHalf value
    else if 0xDC00 ≤ value && value ≤ 0xDFFF then .refused
    else .character (Char.ofNat value)

/-- A character put in front of what was read. -/
def prepend (c : Char) :
    Except Fault (List Char × List Char) → Except Fault (List Char × List Char)
  | .ok (text, rest) => .ok (c :: text, rest)
  | .error fault => .error fault

/-- The rest of a string up to its closing quote, and what follows it. -/
def stringFrom (strict : Bool) : Mode → List Char → Except Fault (List Char × List Char)
  | _, [] => .error .malformed
  | .plain, c :: rest =>
    if c = '"' then .ok ([], rest)
    else if c = '\\' then stringFrom strict (.escape none) rest
    else if c.toNat < 0x20 then .error .malformed
    else prepend c (stringFrom strict .plain rest)
  | .escape high, c :: rest =>
    if c = 'u' then stringFrom strict (.digits high 3 0) rest
    else if high.isSome then .error .malformed
    else match unescape? c with
    | some meant => prepend meant (stringFrom strict .plain rest)
    | none => .error .malformed
  | .digits high left value, c :: rest =>
    match hexValue? c with
    | none => .error .malformed
    | some digit =>
      match left with
      | fewer + 1 => stringFrom strict (.digits high fewer (value * 16 + digit)) rest
      | 0 =>
        match finish strict high (value * 16 + digit) with
        | .character meant => prepend meant (stringFrom strict .plain rest)
        | .firstHalf first => stringFrom strict (.paired first) rest
        | .refused => .error .malformed
  | .paired high, c :: rest =>
    if c = '\\' then stringFrom strict (.escape (some high)) rest else .error .malformed

/-- The string whose opening quote was just passed, and what follows its closing one. -/
def readString (text : List Char) : Except Fault (String × List Char) :=
  match stringFrom true .plain text with
  | .ok (characters, rest) => .ok (String.ofList characters, rest)
  | .error fault => .error fault

/-- What follows the string whose opening quote was just passed. -/
def skipString (text : List Char) : Except Fault (List Char) :=
  match stringFrom false .plain text with
  | .ok (_, rest) => .ok rest
  | .error fault => .error fault

end SealedCredentials.Json
