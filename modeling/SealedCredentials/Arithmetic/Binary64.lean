/-!
# Numbers of 53 significant bits

The non-negative finite numbers of the 64-bit binary format, as a mantissa and a power of
two.  `round` takes any quotient to the nearest of them, a tie going to the even mantissa,
and gives nothing when the quotient is too large.  Products and quotients are formed exactly
and rounded once.
-/

set_option autoImplicit false

namespace SealedCredentials.Arithmetic

/-- The number `mantissa * 2 ^ exponent`. -/
structure Binary64 where
  mantissa : Nat
  exponent : Int
  deriving DecidableEq, Repr

namespace Binary64

/-- Zero, written with the least exponent. -/
def zero : Binary64 := ⟨0, -1074⟩

/-- Whether a number is zero. -/
def isZero (x : Binary64) : Bool := x.mantissa == 0

/-- The numerator and the denominator of a quotient times a power of two. -/
def scale (numerator denominator : Nat) (power : Int) : Nat × Nat :=
  if 0 ≤ power then (numerator * Nat.pow 2 power.toNat, denominator)
  else (numerator, denominator * Nat.pow 2 (-power).toNat)

/-- The nearest natural number to a quotient; a tie goes to the even one. -/
def nearest (numerator denominator : Nat) : Nat :=
  let quotient := numerator / denominator
  let rest := numerator % denominator
  if denominator < 2 * rest || (denominator == 2 * rest && quotient % 2 == 1) then quotient + 1
  else quotient

/-- The exponent at which a positive quotient has 53 binary digits before its point, or the
least exponent if that is larger. -/
def exponentOf (numerator denominator : Nat) : Int :=
  let magnitude : Int := (numerator.log2 : Int) - denominator.log2
  let (above, below) := scale numerator denominator (-magnitude)
  let exponent := if below ≤ above then magnitude - 52 else magnitude - 53
  max exponent (-1074)

/-- The number nearest to a quotient, or nothing if every number is too small. -/
def round (numerator denominator : Nat) : Option Binary64 :=
  if numerator = 0 then some zero
  else
    let exponent := exponentOf numerator denominator
    let (above, below) := scale numerator denominator (-exponent)
    let mantissa := nearest above below
    let rounded : Binary64 :=
      if mantissa = Nat.pow 2 53 then ⟨Nat.pow 2 52, exponent + 1⟩ else ⟨mantissa, exponent⟩
    if 971 < rounded.exponent then none else some rounded

/-- The product of two numbers. -/
def mul (left right : Binary64) : Option Binary64 :=
  let (above, below) := scale (left.mantissa * right.mantissa) 1 (left.exponent + right.exponent)
  round above below

/-- The quotient of two numbers, the second one not zero. -/
def div (left right : Binary64) : Option Binary64 :=
  let (above, below) := scale left.mantissa right.mantissa (left.exponent - right.exponent)
  round above below

end Binary64

end SealedCredentials.Arithmetic
