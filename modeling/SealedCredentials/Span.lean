/-!
# Spans of time

Instants and spans are counted in nanoseconds.  A span is shown in the largest unit that it
fills at least once, with the fraction written out and no zeros at its end.
-/

set_option autoImplicit false

namespace SealedCredentials.Span

/-- The nanoseconds of a count of milliseconds. -/
def ofMillis (millis : Nat) : Nat := millis * 1000000

/-- The nanoseconds of a count of seconds. -/
def ofSeconds (seconds : Nat) : Nat := seconds * 1000000000

/-- The digits of `value` filled up with zeros in front to at least `width`. -/
def fixedDigits (width value : Nat) : List Char :=
  let digits := Nat.toDigits 10 value
  List.replicate (width - digits.length) '0' ++ digits

/-- The part of a count below one unit of `10 ^ width`, with its point, or nothing if it is
zero. -/
def fraction (width part : Nat) : List Char :=
  if part = 0 then []
  else
    let kept := (fixedDigits width part).reverse.dropWhile fun digit => digit == '0'
    '.' :: kept.reverse

/-- A count of nanoseconds in units of `10 ^ width`. -/
def inUnit (width nanoseconds : Nat) (unit : String) : String :=
  toString (nanoseconds / Nat.pow 10 width) ++
    String.ofList (fraction width (nanoseconds % Nat.pow 10 width)) ++ unit

/-- The text of a span. -/
def text (nanoseconds : Nat) : String :=
  if Nat.pow 10 9 ≤ nanoseconds then inUnit 9 nanoseconds "s"
  else if Nat.pow 10 6 ≤ nanoseconds then inUnit 6 nanoseconds "ms"
  else if Nat.pow 10 3 ≤ nanoseconds then inUnit 3 nanoseconds "µs"
  else inUnit 0 nanoseconds "ns"

end SealedCredentials.Span
