import SpotForecast.Grid.Table
import SpotForecast.Lags.Name

/-!
# Lag features

The features at a row of a grid are the ratios of consecutive values of one column: with `count`
lags, the values of the row and of the `count` rows before it give `count` ratios, the most recent
one last.  Ratios do not depend on the level of the prices.

* `Lags.featureRow?` reads the row, the window of values and the pairs in it one by one, and gives
  nothing where one of them is not there.
* `Lags.build` gives the features of every row that has enough rows before it, `Lags.latest` those
  of the last row.
* Too few rows are noticed before an unknown column.
-/

namespace SpotForecast.Lags

/-- The runs of `size` consecutive elements that start at the first `count` places. -/
def windowsAt {α : Type} (size : Nat) : Nat → List α → List (List α)
  | count + 1, a :: rest => (a :: rest).take size :: windowsAt size count rest
  | _, _ => []

/-- The runs of `size` consecutive elements. -/
def windows {α : Type} (size : Nat) (l : List α) : List (List α) :=
  windowsAt size (l.length + 1 - size) l

/-- The number of rows that features need. -/
def minRows (count : Nat) : Nat :=
  count + 1

/-- The values at a place and at the `count` places before it, if there are so many. -/
def window? (count : Nat) (values : Array Float) (place : Nat) : Option (List Float) :=
  if count ≤ place ∧ place < values.size then
    some (values.extract (place - count) (place + 1)).toList
  else none

/-- The quotient of a pair of consecutive values, the later by the earlier one. -/
def ratio? (pair : List Float) : Option Float := do
  let later ← pair[1]?
  let earlier ← pair[0]?
  pure (later / earlier)

/-- The features of the row at a place, if that row and all values for them are there. -/
def featureRow? (count : Nat) (rows : Array Row) (values : Array Float) (place : Nat) :
    Option Row := do
  let r ← rows[place]?
  let window ← window? count values place
  let features ← (windows 2 window).mapM ratio?
  pure ⟨r.time, features⟩

/-- The features of every row that has enough rows before it. -/
def build (count : Nat) (g : Grid) (category : String) :
    Except (Stop ForecastFault) (List Row) := do
  if count = 0 then
    throw (.fault (.invalidInput "num_lags must be positive"))
  if g.rowCount < minRows count then
    throw (.fault (.insufficientData (minRows count) g.rowCount))
  let column ← orFault (g.requireColumn category)
  let values ← orAbort .missingColumn (g.columnValues column)
  let places := List.range' count (g.rowCount - count)
  orAbort .missingRow (places.mapM (featureRow? count g.rows.toArray values.toArray))

/-- The features of the last row. -/
def latest (count : Nat) (g : Grid) (category : String) : Except (Stop ForecastFault) Row := do
  match (← build count g category).getLast? with
  | some r => pure r
  | none => throw (.fault (.insufficientData (minRows count) g.rowCount))

/-- Features as a table.  The columns are those of the first row. -/
def table (layout : Layout) (rows : List Row) : Except Abort String :=
  let width := match rows with
    | [] => 0
    | first :: _ => first.values.length
  Layout.table { layout with columnTemplate := Layout.bareTemplate } ((List.range width).map name)
    rows

end SpotForecast.Lags
