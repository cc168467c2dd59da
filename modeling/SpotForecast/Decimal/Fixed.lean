import SpotForecast.Decimal.Binary
import SpotForecast.Decimal.Digits

/-!
# Doubles with a fixed number of places

`fixed places x` rounds the exact value of `x` once, to the nearest multiple of `10 ^ -places`,
with ties to the even neighbour.  The sign of the double is kept even where the digits are all
zero, and the values that are no numbers have names.
-/

namespace SpotForecast.Decimal

/-- A quotient rounded to the nearest natural number, ties to the even one. -/
def roundDiv (num den : Nat) : Nat :=
  let quotient := num / den
  let twice := 2 * (num % den)
  if twice < den then quotient
  else if den < twice then quotient + 1
  else if quotient % 2 = 0 then quotient else quotient + 1

/-- Digits with a point before the last `places` of them. -/
def withPoint (places : Nat) (digits : List Char) : List Char :=
  if places = 0 then digits
  else
    let whole := digits.length - places
    digits.take whole ++ '.' :: digits.drop whole

/-- A double with exactly `places` digits after the point. -/
def fixed (places : Nat) (x : Float) : List Char :=
  if x.isNaN then "NaN".toList
  else
    let sign := if isNegative x then ['-'] else []
    if x.isInf then sign ++ "inf".toList
    else
      let m := magnitude x
      let units := roundDiv (m.numerator * Nat.pow 10 places) m.denominator
      sign ++ withPoint places (padded '0' (places + 1) units)

end SpotForecast.Decimal
