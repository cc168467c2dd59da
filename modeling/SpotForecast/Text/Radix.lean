/-!
# Numbers in a base

Natural numbers as digits of a base of at most sixteen; the letters from `a` to `f` in either case
go on after the nine.

* `number?` is the number that digits denote, and `scalar?` the character with a hexadecimal number.
-/

namespace SpotForecast.Text

/-- The digit that a character stands for, if it is a digit of the base. -/
def digit? (base : Nat) (c : Char) : Option Nat :=
  let value :=
    if '0' ≤ c ∧ c ≤ '9' then c.toNat - '0'.toNat
    else if 'a' ≤ c ∧ c ≤ 'f' then c.toNat - 'a'.toNat + 10
    else if 'A' ≤ c ∧ c ≤ 'F' then c.toNat - 'A'.toNat + 10
    else base
  if value < base then some value else none

/-- Whether a character is a hexadecimal digit. -/
def isHexDigit (c : Char) : Bool :=
  (digit? 16 c).isSome

/-- The number that digits denote in a base; there has to be one. -/
def number? (base : Nat) (digits : List Char) : Option Nat :=
  if digits.isEmpty then none
  else digits.foldlM (fun n c => (digit? base c).map (fun d => n * base + d)) 0

/-- The character with a number, if there is one. -/
def charOf? (n : Nat) : Option Char :=
  if n.isValidChar then some (Char.ofNat n) else none

/-- The character with a hexadecimal number. -/
def scalar? (digits : List Char) : Option Char :=
  (number? 16 digits).bind charOf?

/-- The character whose number stands at the start of a text in some hexadecimal digits, and what
follows. -/
def numbered? (count : Nat) (cs : List Char) : Option (Char × List Char) :=
  if cs.length < count then none
  else (scalar? (cs.take count)).map (fun c => (c, cs.drop count))

end SpotForecast.Text
