import SpotForecast.Grid.Mean
import SpotForecast.Lags.Basic

/-!
# Reports

The tables that the commands print for a grid and for the lag features of a category.  A tail cuts
a report to its last rows.
-/

namespace SpotForecast

/-- A grid as the commands print it. -/
def Grid.report (g : Grid) (tail : Option Nat) : Except Abort String :=
  (match tail with
    | some count => g.tail count
    | none => g).table Layout.standard

/-- The lag features of a category and the mean of its latest values. -/
structure LagReport where
  rows : List Row
  /-- The mean over as many rows as there are lags. -/
  rollingMean : Float
deriving DecidableEq

namespace LagReport

/-- The report on a category of a grid. -/
def ofGrid (numLags : Nat) (g : Grid) (category : String) :
    Except (Stop ForecastFault) LagReport := do
  let rows ← Lags.build numLags g category
  let mean ← g.rollingMean numLags category
  pure ⟨rows, mean⟩

/-- The rows of a report, or its last rows. -/
def shown (r : LagReport) : Option Nat → List Row
  | some count => r.rows.drop (r.rows.length - count)
  | none => r.rows

/-- The table of a report. -/
def text (r : LagReport) (tail : Option Nat) : Except Abort String :=
  Lags.table Layout.standard (r.shown tail)

end LagReport

end SpotForecast
