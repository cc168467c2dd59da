import SpotForecast.Decimal.Digits
import SpotForecast.Decimal.Width

/-!
# Names of lag features

The feature with index `i` is called `lag_` and then `i` in decimal with at least two digits.
A name is read with any number of leading zeros, as long as the index fits into 64 bits.
-/

namespace SpotForecast.Lags

/-- The text that every name of a feature starts with. -/
def namePrefix : List Char := "lag_".toList

/-- The indices that a feature can have lie below this number. -/
def indexLimit : Nat := Decimal.limit64

/-- The name of the feature with an index. -/
def nameChars (index : Nat) : List Char :=
  namePrefix ++ Decimal.padded '0' 2 index

/-- The name of the feature with an index. -/
def name (index : Nat) : String :=
  String.ofList (nameChars index)

/-- The index that digits denote, if there are any and it is below the limit. -/
def indexOfDigits? (digits : List Char) : Option Nat :=
  if digits.isEmpty || !digits.all Decimal.isDigit then none
  else if Decimal.valueOf digits < indexLimit then some (Decimal.valueOf digits)
  else none

/-- The index of the feature with a name. -/
def index? (text : String) : Option Nat :=
  match text.toList with
  | 'l' :: 'a' :: 'g' :: '_' :: digits => indexOfDigits? digits
  | _ => none

end SpotForecast.Lags
