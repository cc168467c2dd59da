/-!
# Decimal digits

Natural numbers as strings of the ten ASCII digits.

* `digitsOf` writes a number without leading zeros and `valueOf` reads any run of digits, leading
  zeros included; `valueOf_digitsOf` says that reading undoes writing.
* `padded` fills a number up to a width with a character of the caller's choice.
-/

namespace SpotForecast.Decimal

/-- One of the ten ASCII digits. -/
def isDigit (c : Char) : Bool :=
  '0' ≤ c && c ≤ '9'

/-- The decimal digits of a number, without leading zeros. -/
def digitsOf (n : Nat) : List Char :=
  Nat.toDigits 10 n

/-- The number that a run of decimal digits denotes; nothing denotes zero. -/
def valueOf (digits : List Char) : Nat :=
  Nat.ofDigitChars 10 digits 0

/-- Reading a written number gives it back. -/
@[simp] theorem valueOf_digitsOf (n : Nat) : valueOf (digitsOf n) = n :=
  Nat.ofDigitChars_toDigits (by decide) (by decide)

/-- The digits of a number, filled up on the left to `width` characters. -/
def padded (fill : Char) (width n : Nat) : List Char :=
  (digitsOf n).leftpad width fill

/-- A run of digits whose first one is the most significant, and the rest of the text. -/
def spanDigits (cs : List Char) : List Char × List Char :=
  (cs.takeWhile isDigit, cs.dropWhile isDigit)

/-- At most `limit` digits from the start of a text, and the rest of the text. -/
def spanDigitsUpTo (limit : Nat) (cs : List Char) : List Char × List Char :=
  let digits := (cs.take limit).takeWhile isDigit
  (digits, cs.drop digits.length)

end SpotForecast.Decimal
