/-!
# Widths of integers

Integers are bounded by a number of binary digits in many places.  Natural numbers of 16, 32 and 64
bits lie below `limit16`, `limit32` and `limit64`; an integer with a sign has 64 bits if
`isSigned64` holds.
-/

namespace SpotForecast.Decimal

/-- Natural numbers of 16 bits lie below this one. -/
def limit16 : Nat := 65536

/-- Natural numbers of 32 bits lie below this one. -/
def limit32 : Nat := 4294967296

/-- Natural numbers of 64 bits lie below this one. -/
def limit64 : Nat := 18446744073709551616

/-- The least integer of 64 bits. -/
def leastSigned64 : Int := -9223372036854775808

/-- The greatest integer of 64 bits. -/
def greatestSigned64 : Int := 9223372036854775807

/-- An integer of 64 bits, one of which is its sign. -/
def isSigned64 (i : Int) : Bool :=
  leastSigned64 ≤ i && i ≤ greatestSigned64

end SpotForecast.Decimal
