import SealedCredentials.Arithmetic.Decimal
import SealedCredentials.Json.Value

/-!
# Numbers in JSON texts

A number is read in two steps: its spelling, which is strict (no sign but a minus, no zero in
front, digits on both sides of a point), and its value.  An integer of 64 bits has its exact
value.  Any other number is made from as many of its leading digits as fit in 64 bits, times
or over a power of ten, rounded at each of those two steps; a number that is too large is
refused, one that is too small is zero.
-/

set_option autoImplicit false

namespace SealedCredentials.Json

open SealedCredentials.Arithmetic
open Decimal (isDigit digitValue)

/-! ## Spelling -/

/-- The spelling of a number. -/
structure Literal where
  negative : Bool
  whole : List Char
  part : List Char
  /-- Whether the exponent is negative, and its digits. -/
  exponent : Option (Bool × List Char)
  deriving DecidableEq, Repr

/-- The digits before the point, and what follows them. -/
def lexWhole : List Char → Except Fault (List Char × List Char)
  | [] => .error .malformed
  | first :: rest =>
    if first = '0' then
      match rest with
      | next :: _ => if isDigit next then .error .malformed else .ok (['0'], rest)
      | [] => .ok (['0'], [])
    else if isDigit first then
      .ok (first :: rest.takeWhile isDigit, rest.dropWhile isDigit)
    else .error .malformed

/-- At least one digit, and what follows the digits. -/
def lexDigits (text : List Char) : Except Fault (List Char × List Char) :=
  let digits := text.takeWhile isDigit
  if digits.isEmpty then .error .malformed else .ok (digits, text.dropWhile isDigit)

/-- The digits after a point, if there is one, and what follows them. -/
def lexPart : List Char → Except Fault (List Char × List Char)
  | '.' :: rest => lexDigits rest
  | text => .ok ([], text)

/-- The sign of an exponent, and what follows it. -/
def lexSign : List Char → Bool × List Char
  | '-' :: rest => (true, rest)
  | '+' :: rest => (false, rest)
  | text => (false, text)

/-- The exponent, if there is one, and what follows it. -/
def lexExponent : List Char → Except Fault (Option (Bool × List Char) × List Char)
  | [] => .ok (none, [])
  | mark :: rest =>
    if mark = 'e' || mark = 'E' then do
      let (negative, rest) := lexSign rest
      let (digits, rest) ← lexDigits rest
      return (some (negative, digits), rest)
    else .ok (none, mark :: rest)

/-- The spelling of the number at the head of a text, and what follows it. -/
def lexNumber (text : List Char) : Except Fault (Literal × List Char) := do
  let (negative, rest) :=
    match text with
    | '-' :: rest => (true, rest)
    | _ => (false, text)
  let (whole, rest) ← lexWhole rest
  let (part, rest) ← lexPart rest
  let (exponent, rest) ← lexExponent rest
  return (⟨negative, whole, part, exponent⟩, rest)

/-! ## Value -/

/-- Digits appended to a significand as long as it stays below 2 ^ 64; the count of digits
that were appended comes with it. -/
def fitDigits (significand : Nat) : List Char → Nat × Nat
  | [] => (significand, 0)
  | c :: rest =>
    let next := significand * 10 + digitValue c
    if next < Nat.pow 2 64 then
      let (fitted, count) := fitDigits next rest
      (fitted, count + 1)
    else (significand, 0)

/-- The power of ten, rounded. -/
def powerOfTen (power : Nat) : Binary64 := (Binary64.round (Nat.pow 10 power) 1).getD .zero

/-- A number divided by 10 ^ 308 until what is left of the exponent fits the table of powers,
or the number is zero. -/
def reduceTiny (x : Binary64) (exponent : Nat) : Nat → Binary64 × Nat
  | 0 => (x, exponent)
  | tries + 1 =>
    if exponent ≤ 308 || x.isZero then (x, exponent)
    else reduceTiny ((x.div (powerOfTen 308)).getD .zero) (exponent - 308) tries

/-- A significand times a power of ten.  Four divisions by 10 ^ 308 turn any significand to
zero. -/
def scaleByTen (significand : Nat) (exponent : Int) : Except Fault Binary64 :=
  let x := (Binary64.round significand 1).getD .zero
  if 0 ≤ exponent then
    if exponent ≤ 308 then
      match x.mul (powerOfTen exponent.toNat) with
      | some product => .ok product
      | none => .error .malformed
    else if x.isZero then .ok x
    else .error .malformed
  else
    let (reduced, left) := reduceTiny x (-exponent).toNat 4
    if reduced.isZero then .ok reduced
    else .ok ((reduced.div (powerOfTen left)).getD .zero)

/-- The number that is not a 64-bit integer behind a spelling. -/
def Literal.real (literal : Literal) : Except Fault Number := do
  let (leading, taken) := fitDigits 0 literal.whole
  let skipped : Int := literal.whole.length - taken
  let (significand, places) := fitDigits leading literal.part
  let shift : Int :=
    match literal.exponent with
    | none => 0
    | some (negative, digits) =>
      if negative then -(Decimal.value digits : Int) else Decimal.value digits
  let magnitude ← scaleByTen significand (skipped - places + shift)
  return .real literal.negative magnitude

/-- The number behind a spelling. -/
def Literal.value (literal : Literal) : Except Fault Number :=
  if literal.part.isEmpty && literal.exponent.isNone then
    let magnitude := Decimal.value literal.whole
    if literal.negative then
      if 0 < magnitude && magnitude ≤ Nat.pow 2 63 then .ok (.negative magnitude)
      else literal.real
    else if magnitude < Nat.pow 2 64 then .ok (.natural magnitude)
    else literal.real
  else literal.real

/-- The number at the head of a text, and what follows it. -/
def readNumber (text : List Char) : Except Fault (Number × List Char) := do
  let (literal, rest) ← lexNumber text
  let value ← literal.value
  return (value, rest)

end SealedCredentials.Json
