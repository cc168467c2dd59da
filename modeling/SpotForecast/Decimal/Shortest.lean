import SpotForecast.Decimal.Binary
import SpotForecast.Decimal.Digits
import SpotForecast.Decimal.Reading

/-!
# The fewest digits that read back

`shortest tie x` is the decimal with the fewest digits that `nearest` takes back to `x`, and among
those the one closest to `x`; which of two equally close ones is taken, `tie` says.

For each number of digits only the two neighbours of `x` on that decimal grid are tried: if any
point of the grid reads back as `x`, one of the two does.  Seventeen digits always suffice.
-/

namespace SpotForecast.Decimal

/-- The decimal `digits · 10 ^ exponent`. -/
structure Scientific where
  digits : Nat
  exponent : Int
deriving DecidableEq, Repr

/-- The double nearest to a decimal. -/
def Scientific.toFloat (d : Scientific) : Float :=
  nearest d.digits d.exponent

/-- Which of two equally close decimals is taken. -/
inductive Tie where
  | even
  | up
deriving DecidableEq, Repr

/-- Whether the smaller one of two equally close decimals is taken. -/
def Tie.takesBelow (tie : Tie) (below : Nat) : Bool :=
  tie == .even && below % 2 == 0

/-- The exponent of ten of the first digit of the quotient of two positive numbers. -/
def leadingExponent (num den : Nat) : Int :=
  if den ≤ num then (digitsOf (num / den)).length - 1
  else -((digitsOf ((den + num - 1) / num - 1)).length : Int)

/-- The neighbours of a positive quotient among the multiples of `10 ^ exponent`, the closer one
first. -/
def neighbours (tie : Tie) (num den : Nat) (exponent : Int) : List Scientific :=
  let num := num * Nat.pow 10 (-exponent).toNat
  let den := den * Nat.pow 10 exponent.toNat
  let below := num / den
  let twice := 2 * (num % den)
  if twice < den ∨ (twice = den ∧ tie.takesBelow below) then
    [⟨below, exponent⟩, ⟨below + 1, exponent⟩]
  else [⟨below + 1, exponent⟩, ⟨below, exponent⟩]

/-- The first decimal that reads back as `x`, from `count` digits upwards; `fallback` if none of
the next `tries` numbers of digits has one. -/
def firstReadingBack (tie : Tie) (x : Float) (num den : Nat) (lead : Int)
    (fallback : Scientific) : Nat → Nat → Scientific
  | 0, _ => fallback
  | tries + 1, count =>
    match (neighbours tie num den (lead - count + 1)).find? (fun d => d.toFloat == x) with
    | some d => d
    | none => firstReadingBack tie x num den lead fallback tries (count + 1)

/-- A decimal whose last digit is not zero, of the same value; `steps` bounds the number of zeros
taken away. -/
def dropZeros : Nat → Scientific → Scientific
  | 0, d => d
  | steps + 1, d =>
    if d.digits ≠ 0 ∧ d.digits % 10 = 0 then dropZeros steps ⟨d.digits / 10, d.exponent + 1⟩
    else d

/-- The shortest decimal of a positive finite double. -/
def shortest (tie : Tie) (x : Float) : Scientific :=
  let m := magnitude x
  let num := m.numerator
  let den := m.denominator
  let lead := leadingExponent num den
  let longest := (neighbours tie num den (lead - 16)).headD ⟨0, 0⟩
  dropZeros 20 (firstReadingBack tie x num den lead longest 17 1)

/-- The digits of a decimal and the exponent of ten of the first of them. -/
def Scientific.leading (d : Scientific) : List Char × Int :=
  let ds := digitsOf d.digits
  (ds, d.exponent + ds.length - 1)

/-- A decimal in positional notation, with as many zeros as its exponent asks for and no point
where nothing follows it. -/
def Scientific.positional (d : Scientific) : List Char :=
  let ds := digitsOf d.digits
  if 0 ≤ d.exponent then ds ++ List.replicate d.exponent.toNat '0'
  else
    let places := (-d.exponent).toNat
    let filled := ds.leftpad (places + 1) '0'
    filled.take (filled.length - places) ++ '.' :: filled.drop (filled.length - places)

/-- A double in positional notation with the fewest digits that read back; a tie goes up. -/
def plain (x : Float) : List Char :=
  if x.isNaN then "NaN".toList
  else
    let sign := if isNegative x then ['-'] else []
    if x.isInf then sign ++ "inf".toList
    else if x == 0.0 then sign ++ ['0']
    else sign ++ (shortest .up x.abs).positional

end SpotForecast.Decimal
