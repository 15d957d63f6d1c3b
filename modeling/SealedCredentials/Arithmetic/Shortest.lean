import SealedCredentials.Arithmetic.Binary64

/-!
# Shortest decimal texts

Among the decimals that round to a given number, the one with the fewest digits is shown; of
several, the nearest.  For each count of digits only the two neighbours of the number on that
decimal grid need to be looked at: if any point of the grid rounds to the number, one of the
two does.
-/

set_option autoImplicit false

namespace SealedCredentials.Arithmetic.Shortest

/-- The decimal `digits * 10 ^ power`. -/
structure Scaled where
  digits : Nat
  power : Int
  deriving DecidableEq, Repr

/-- The numerator and the denominator of a number of quarters of `2 ^ exponent`. -/
def quarters (count : Nat) (exponent : Int) : Nat × Nat :=
  Binary64.scale count 4 exponent

/-- The least and the greatest quotient that round to a number, in quarters of its last
place. -/
def bounds (x : Binary64) : Nat × Nat :=
  let below := if x.mantissa = Nat.pow 2 52 ∧ -1074 < x.exponent then 1 else 2
  (4 * x.mantissa - below, 4 * x.mantissa + 2)

/-- How many digits stand before the point of a positive quotient; zero or less when it is
below one. -/
def placesBefore (numerator denominator : Nat) : Int :=
  if denominator ≤ numerator then (Nat.toDigits 10 (numerator / denominator)).length
  else
    let inverse := (Nat.toDigits 10 (denominator / numerator)).length
    if denominator ≤ numerator * Nat.pow 10 (inverse - 1) then 2 - (inverse : Int)
    else 1 - (inverse : Int)

/-- A quotient in units of `10 ^ power`, as a quotient. -/
def inUnits (numerator denominator : Nat) (power : Int) : Nat × Nat :=
  if 0 ≤ power then (numerator, denominator * Nat.pow 10 power.toNat)
  else (numerator * Nat.pow 10 (-power).toNat, denominator)

/-- Whether `digits * 10 ^ power` rounds to a number. -/
def roundsTo (x : Binary64) (digits : Nat) (power : Int) : Bool :=
  let (low, high) := bounds x
  let (lowAbove, lowBelow) := quarters low x.exponent
  let (highAbove, highBelow) := quarters high x.exponent
  let (lowNum, lowDen) := inUnits lowAbove lowBelow power
  let (highNum, highDen) := inUnits highAbove highBelow power
  if x.mantissa % 2 = 0 then lowNum ≤ digits * lowDen && digits * highDen ≤ highNum
  else lowNum < digits * lowDen && digits * highDen < highNum

/-- The neighbour of a number on the grid of `10 ^ power` that rounds to it, the nearer one
if both do. -/
def onGrid (x : Binary64) (power : Int) : Option Scaled :=
  let (above, below) := quarters (4 * x.mantissa) x.exponent
  let (numerator, denominator) := inUnits above below power
  let under := numerator / denominator
  let rest := numerator % denominator
  let nearer :=
    if 2 * rest < denominator || (2 * rest == denominator && under % 2 == 0) then under
    else under + 1
  let farther := if nearer = under then under + 1 else under
  if roundsTo x nearer power then some ⟨nearer, power⟩
  else if roundsTo x farther power then some ⟨farther, power⟩
  else none

/-- The shortest decimal of a positive number that has at least `digits` digits, trying
`tries` counts of digits. -/
def search (x : Binary64) (places : Int) (digits : Nat) : Nat → Scaled
  | 0 => ⟨0, 0⟩
  | tries + 1 =>
    match onGrid x (places - digits) with
    | some found => found
    | none => search x places (digits + 1) tries

/-- A decimal without zeros at its end, at most `count` of which are taken away. -/
def Scaled.reduced (decimal : Scaled) : Nat → Scaled
  | 0 => decimal
  | count + 1 =>
    if decimal.digits % 10 = 0 && decimal.digits != 0 then
      Scaled.reduced ⟨decimal.digits / 10, decimal.power + 1⟩ count
    else decimal

/-- The shortest decimal of a positive number.  Seventeen digits always suffice; the upper
neighbour may carry into a new place, which leaves zeros at the end. -/
def ofBinary (x : Binary64) : Scaled :=
  let (above, below) := quarters (4 * x.mantissa) x.exponent
  (search x (placesBefore above below) 1 17).reduced 17

/-! ## Layout -/

/-- Where a number is written with its point in place, and how an exponent is written. -/
structure Layout where
  leastPlain : Int
  greatestPlain : Int
  exponentWidth : Nat
  deriving DecidableEq, Repr

/-- Numbers from 0.00001 to below 10 ^ 16 stand without an exponent; an exponent has a sign
and at least two digits. -/
def plainLayout : Layout := ⟨-5, 15, 2⟩

/-- The digits of an exponent. -/
def Layout.exponentDigits (layout : Layout) (exponent : Int) : List Char :=
  let digits := Nat.toDigits 10 exponent.natAbs
  List.replicate (layout.exponentWidth - digits.length) '0' ++ digits

/-- A decimal written out. -/
def Layout.write (layout : Layout) (decimal : Scaled) : List Char :=
  let digits := Nat.toDigits 10 decimal.digits
  let places : Int := digits.length + decimal.power
  let exponent := places - 1
  if layout.leastPlain ≤ exponent ∧ exponent ≤ layout.greatestPlain then
    if places ≤ 0 then '0' :: '.' :: (List.replicate (-places).toNat '0' ++ digits)
    else
      let whole := digits.take places.toNat
      let part := digits.drop places.toNat
      whole ++ List.replicate (places.toNat - digits.length) '0' ++
        '.' :: (if part.isEmpty then ['0'] else part)
  else
    let part := digits.drop 1
    digits.take 1 ++ (if part.isEmpty then [] else '.' :: part) ++
      'e' :: (if exponent < 0 then '-' else '+') :: layout.exponentDigits exponent

/-- The text of a number with an optional minus sign. -/
def text (negative : Bool) (x : Binary64) : String :=
  let magnitude := if x.isZero then ['0', '.', '0'] else plainLayout.write (ofBinary x)
  String.ofList (if negative then '-' :: magnitude else magnitude)

end SealedCredentials.Arithmetic.Shortest
