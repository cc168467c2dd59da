/-!
# Classes of characters

A class of characters is given by the ranges of code points that belong to it, ends included.
-/

namespace SpotForecast.Text

/-- Whether a character lies in one of some ranges. -/
def liesIn (ranges : List (Nat × Nat)) (c : Char) : Bool :=
  ranges.any (fun (first, last) => first ≤ c.toNat && c.toNat ≤ last)

end SpotForecast.Text
