/-!
# The parts of a double

A finite double is a sign, a mantissa and a power of two.  Everything that writes a double in
decimal works on the exact value `mantissa · 2 ^ exponent`, so no rounding happens before the one
that the output format asks for.
-/

namespace SpotForecast.Decimal

/-- The exact value of a finite double, apart from its sign: `mantissa · 2 ^ exponent`. -/
structure Magnitude where
  /-- The mantissa, below `2 ^ 53`. -/
  mantissa : Nat
  exponent : Int
deriving DecidableEq, Repr

/-- A double whose sign bit is set; so is negative zero. -/
def isNegative (x : Float) : Bool :=
  x.toBits >>> 63 == 1

/-- The magnitude of a finite double. -/
def magnitude (x : Float) : Magnitude :=
  let field := ((x.toBits >>> 52) &&& 0x7FF).toNat
  let fraction := (x.toBits &&& 0xFFFFFFFFFFFFF).toNat
  if field = 0 then ⟨fraction, -1074⟩ else ⟨fraction + 0x10000000000000, field - 1075⟩

/-- The numerator of a magnitude written as a quotient of natural numbers. -/
def Magnitude.numerator (m : Magnitude) : Nat :=
  m.mantissa * Nat.pow 2 m.exponent.toNat

/-- The denominator of a magnitude written as a quotient of natural numbers. -/
def Magnitude.denominator (m : Magnitude) : Nat :=
  Nat.pow 2 (-m.exponent).toNat

/-- Positive infinity. -/
def infinity : Float := 1.0 / 0.0

/-- The one value that is not a number. -/
def notANumber : Float := 0.0 / 0.0

end SpotForecast.Decimal
