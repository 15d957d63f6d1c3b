import SealedCredentials.Arithmetic.PowerMod

/-!
# Differences and powers

Numbers have no sign here, so a difference may have no result, and neither may a power under a
modulus of zero.  What needs the two is therefore written for any way of computing them, in any
monad (`Operations`).  The program computes them outright, so that a difference stops at zero
(`Operations.plain`).
-/

set_option autoImplicit false

namespace SealedCredentials.Arithmetic

/-- How a difference is computed, and a power that is reduced by a modulus. -/
structure Operations (m : Type → Type) where
  difference : Nat → Nat → m Nat
  /-- The power of a base and an exponent, reduced by a modulus. -/
  power : Nat → Nat → Nat → m Nat

/-- Both of them computed outright. -/
def Operations.plain : Operations Id where
  difference number less := number - less
  power := powerMod

end SealedCredentials.Arithmetic
