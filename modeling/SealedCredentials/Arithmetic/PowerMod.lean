/-!
# Modular powers

Square and multiply, from the highest binary digit of the exponent to the lowest.  The
running value is reduced after every product, so no factor ever reaches the modulus.
-/

set_option autoImplicit false

namespace SealedCredentials.Arithmetic

/-- The binary digits of a number put in front of `digits`, the highest first. -/
def binaryOnto (number : Nat) (digits : List Bool) : List Bool :=
  if number = 0 then digits
  else binaryOnto (number / 2) ((number % 2 == 1) :: digits)

/-- The binary digits of a number, the highest first; zero has none. -/
def binary (number : Nat) : List Bool := binaryOnto number []

/-- How many binary digits a number has. -/
def bitLength (number : Nat) : Nat := (binary number).length

/-- The running value after one more digit of the exponent: squared, and multiplied by the
base if the digit is set. -/
def squareMultiply (base modulus running : Nat) (digit : Bool) : Nat :=
  let squared := running * running % modulus
  if digit then squared * base % modulus else squared

/-- `base` to the power `exponent`, reduced by `modulus`. -/
def powerMod (base exponent modulus : Nat) : Nat :=
  if modulus = 1 then 0
  else (binary exponent).foldl (squareMultiply (base % modulus) modulus) 1

end SealedCredentials.Arithmetic
