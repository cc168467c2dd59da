import SpotForecast.Decimal.Binary
import SpotForecast.Decimal.Digits
import SpotForecast.Decimal.Reading
import SpotForecast.Decimal.Width

/-!
# Doubles read in steps

The way in which numbers of JSON documents become doubles.  It is cheaper than rounding once, and
the last binary digit of the result may differ from that of `nearest`.

* `gather` takes the digits of a number as long as their value fits 64 bits.  Digits that are left
  over before the point count as powers of ten, those after it not at all.
* `scaled` takes the double nearest to the gathered value and multiplies or divides it by a power
  of ten, which rounds a second time.  No power is greater than `10 ^ 308`, so it divides several
  times where that is not enough.
-/

namespace SpotForecast.Decimal

/-- The value that digits add to a number as long as it fits 64 bits, and the digits left over. -/
def gather (value : Nat) : List Char → Nat × List Char
  | [] => (value, [])
  | c :: rest =>
    let next := 10 * value + valueOf [c]
    if next < limit64 then gather next rest else (value, c :: rest)

/-- The greatest power of ten that a double is multiplied with or divided by. -/
def greatestPower : Nat := 308

/-- The double nearest to a power of ten. -/
def powerOfTen (exponent : Nat) : Float :=
  nearest 1 exponent

/-- A double divided by a power of ten. -/
def dividedBy (x : Float) (exponent : Nat) : Float :=
  if exponent ≤ greatestPower then x / powerOfTen exponent
  else if x == 0.0 then x
  else dividedBy (x / powerOfTen greatestPower) (exponent - greatestPower)
termination_by exponent
decreasing_by
  simp only [greatestPower] at *
  omega

/-- The double that a value and a power of ten make up, if it is finite. -/
def scaled (value : Nat) (exponent : Int) : Option Float :=
  let x := nearest value 0
  if exponent < 0 then some (dividedBy x exponent.natAbs)
  else if x == 0.0 then some x
  else
    let y := x * powerOfTen exponent.natAbs
    if exponent.natAbs ≤ greatestPower ∧ y.isFinite then some y else none

/-- The double that the digits before and after a point and an exponent make up, if it is
finite. -/
def stepwise (whole fraction : List Char) (exponent : Int) : Option Float :=
  let (value, beyond) := gather 0 whole
  let (value, ignored) := gather value fraction
  scaled value (beyond.length - (fraction.length - ignored.length) + exponent)

end SpotForecast.Decimal
