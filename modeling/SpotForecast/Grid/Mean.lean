import SpotForecast.Grid.Basic

/-!
# The mean of the latest values

`Grid.rollingMean` is the mean of a column over the last rows of a grid.  The values are added from
the earlier to the later ones, starting at negative zero, so the mean of negative zeros is one too.
-/

namespace SpotForecast.Grid

/-- The sum of values, added from the first to the last. -/
def sum (values : List Float) : Float :=
  values.foldl (· + ·) (-0.0)

/-- The mean of a column over the last `window` rows. -/
def rollingMean (window : Nat) (g : Grid) (category : String) :
    Except (Stop ForecastFault) Float := do
  if window = 0 then
    throw (.fault (.invalidInput "rolling window must be positive"))
  let column ← orFault (g.requireColumn category)
  if g.rowCount < window then
    throw (.fault (.insufficientData window g.rowCount))
  let values ← orAbort .missingColumn (g.columnValues column)
  pure (sum (values.drop (g.rowCount - window)) / Float.ofNat window)

end SpotForecast.Grid
