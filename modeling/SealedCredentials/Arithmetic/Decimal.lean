import SealedCredentials.Text.Blank

/-!
# Integers as decimal texts

Both sides of an exchange send their integers in base ten.  Reading allows blank characters
around the digits and zeros in front; writing uses neither, so it is the one form from which
keys are derived.
-/

set_option autoImplicit false

namespace SealedCredentials.Arithmetic.Decimal

/-- How a text fails to be a decimal integer. -/
inductive Fault where
  | empty
  /-- The text, cut off after 32 characters. -/
  | notDecimal (shown : String)
  deriving DecidableEq, Repr

/-- The wording of a fault. -/
def Fault.message : Fault → String
  | .empty => "empty string"
  | .notDecimal shown => "not a base-10 integer: " ++ shown

/-- One of the ten ASCII digits. -/
def isDigit (c : Char) : Bool := '0' ≤ c && c ≤ '9'

/-- The value of a digit. -/
def digitValue (c : Char) : Nat := c.toNat - '0'.toNat

/-- The digit of a value below ten. -/
def digit (value : Nat) : Char := Char.ofNat ('0'.toNat + value)

/-- The number that a list of digits spells. -/
def value (digits : List Char) : Nat :=
  digits.foldl (fun number c => number * 10 + digitValue c) 0

/-- The digits of a number, without leading zeros. -/
def digits (number : Nat) : List Char :=
  if number < 10 then [digit number]
  else digits (number / 10) ++ [digit (number % 10)]

/-- The decimal text of a number. -/
def ofNat (number : Nat) : String := String.ofList (digits number)

/-- The number that a text spells. -/
def parse (text : String) : Except Fault Nat :=
  let characters := Text.trimmed text.toList
  if characters.isEmpty then .error .empty
  else if characters.all isDigit then .ok (value characters)
  else .error (.notDecimal (String.ofList (characters.take 32)))

end SealedCredentials.Arithmetic.Decimal
