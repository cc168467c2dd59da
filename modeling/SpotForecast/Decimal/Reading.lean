import SpotForecast.Decimal.Binary
import SpotForecast.Decimal.Digits

/-!
# Reading doubles

The texts that prices and numeric settings may have: an optional sign, then one of the words
`inf`, `infinity` and `nan` in any case, or digits with an optional point (digits on at least one
side of it) and an optional exponent.

`nearest` gives the double nearest to `digits · 10 ^ exponent`.  Values past the largest double
become infinite and values below half the smallest one become zero, without the power of ten being
formed.
-/

namespace SpotForecast.Decimal

/-- Why a text is no number. -/
inductive ReadFault where
  | empty
  | malformed
deriving DecidableEq, Repr

/-- The wording of a fault. -/
def ReadFault.message : ReadFault → String
  | .empty => "cannot parse float from empty string"
  | .malformed => "invalid float literal"

/-- The double nearest to `digits · 10 ^ exponent`. -/
def nearest (digits : Nat) (exponent : Int) : Float :=
  if digits = 0 then 0.0
  else
    let top := (digitsOf digits).length + exponent
    if 310 < top then infinity
    else if top < -330 then 0.0
    else Float.ofScientific digits (decide (exponent < 0)) exponent.natAbs

/-- A number that may have a sign, as an integer; it must have digits and nothing after them. -/
def readInteger (cs : List Char) : Option Int :=
  match cs with
  | '-' :: digits => if digits.isEmpty || !digits.all isDigit then none else some (-valueOf digits)
  | '+' :: digits => if digits.isEmpty || !digits.all isDigit then none else some (valueOf digits)
  | digits => if digits.isEmpty || !digits.all isDigit then none else some (valueOf digits)

/-- A natural number; it may have a plus sign and any number of leading zeros. -/
def readNatural (cs : List Char) : Option Nat :=
  match cs with
  | '-' :: _ => none
  | _ => (readInteger cs).map Int.toNat

/-- The power of ten that follows the digits of a number; nothing stands for zero. -/
def readExponent : List Char → Option Int
  | [] => some 0
  | c :: rest => if c = 'e' ∨ c = 'E' then readInteger rest else none

/-- A number without a sign. -/
def readUnsigned (cs : List Char) : Except ReadFault Float :=
  let word := String.ofList (cs.map Char.toLower)
  if word = "inf" ∨ word = "infinity" then .ok infinity
  else if word = "nan" then .ok notANumber
  else
    let (whole, rest) := spanDigits cs
    let (fraction, rest) := match rest with
      | '.' :: afterPoint => spanDigits afterPoint
      | _ => ([], rest)
    if whole.isEmpty && fraction.isEmpty then .error .malformed
    else match readExponent rest with
      | some exponent => .ok (nearest (valueOf (whole ++ fraction)) (exponent - fraction.length))
      | none => .error .malformed

/-- The double that a text denotes. -/
def read (cs : List Char) : Except ReadFault Float :=
  match cs with
  | [] => .error .empty
  | '-' :: rest => (readUnsigned rest).map (fun x => -x)
  | '+' :: rest => readUnsigned rest
  | _ => readUnsigned cs

end SpotForecast.Decimal
