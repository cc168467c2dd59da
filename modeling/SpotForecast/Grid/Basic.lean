import SpotForecast.Calendar.Instant
import SpotForecast.Fault

/-!
# Grids

A grid has one row per step of time and one column per category; the columns are named by the
written form of their categories, in ascending order.

* `Grid.slice` and `Grid.tail` keep a run of the rows; bounds past the end are cut to it.
* `Grid.columnValues` reads a column downwards.  It fails if a row is too short for the column.
* `Grid.same` compares the values as numbers, so a grid with a value that is not a number is not
  even the same as itself.
-/

namespace SpotForecast

/-- The values of all columns at one time. -/
structure Row where
  time : Instant
  values : List Float
deriving DecidableEq

/-- Rows at equal distances in time, and the names of their columns, both in ascending order. -/
structure Grid where
  columns : List String
  stepHours : Nat
  rows : List Row
deriving DecidableEq

/-- The number of seconds of an hour. -/
def secondsPerHour : Nat := 3600

namespace Grid

/-- The number of seconds from one row to the next. -/
def stepSeconds (g : Grid) : Nat :=
  g.stepHours * secondsPerHour

/-- The number of rows. -/
def rowCount (g : Grid) : Nat :=
  g.rows.length

/-- Whether there are no rows. -/
def isEmpty (g : Grid) : Bool :=
  g.rows.isEmpty

/-- The place of a column. -/
def columnIndex? (g : Grid) (name : String) : Option Nat :=
  g.columns.idxOf? name

/-- The place of a column, or the fault that names it. -/
def requireColumn (g : Grid) (name : String) : Except ForecastFault Nat :=
  match g.columnIndex? name with
  | some i => .ok i
  | none => .error (.unknownCategory name)

/-- The values of a column, from the first row to the last. -/
def columnValues (g : Grid) (column : Nat) : Option (List Float) :=
  g.rows.mapM (fun r => r.values[column]?)

/-- The rows from `start` up to `stop`, that one excluded. -/
def slice (g : Grid) (start stop : Nat) : Grid :=
  ⟨g.columns, g.stepHours, (g.rows.take stop).drop start⟩

/-- The last `count` rows. -/
def tail (g : Grid) (count : Nat) : Grid :=
  g.slice (g.rowCount - count) g.rowCount

/-- Values that are equal as numbers. -/
def sameValues : List Float → List Float → Bool
  | [], [] => true
  | x :: xs, y :: ys => Float.beq x y && sameValues xs ys
  | _, _ => false

/-- Rows with equal times and values that are equal as numbers. -/
def sameRows : List Row → List Row → Bool
  | [], [] => true
  | r :: rs, s :: ss => r.time == s.time && sameValues r.values s.values && sameRows rs ss
  | _, _ => false

/-- Grids with equal columns, steps and times, and values that are equal as numbers. -/
def same (g h : Grid) : Bool :=
  g.columns == h.columns && g.stepHours == h.stepHours && sameRows g.rows h.rows

end Grid

end SpotForecast
