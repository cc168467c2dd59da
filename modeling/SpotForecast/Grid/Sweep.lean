import SpotForecast.Grid.Basic
import SpotForecast.Observation

/-!
# Laying out a grid

`Grid.ofObservations` puts observations on a grid.  Grid points start at midnight of the day of the
earliest observation and follow each other at a fixed step.  The observations are swept in the
order of their times, those of one time in the order in which they are given; the grid points
before an observation are passed first and get the prices last seen in every column.

* A grid point is a row only if every column has been seen before it or at it.
* The last grid point that is passed lies before the last observation, so no row shows a price
  beyond it.
* The sweep ends with an abort where it would have to pass the end of the calendar, and for no
  other reason.
-/

namespace SpotForecast.Grid

/-- A name put into its place among ascending names, once. -/
def insertName (name : String) : List String → List String
  | [] => [name]
  | n :: rest =>
    if name < n then name :: n :: rest
    else if name = n then n :: rest
    else n :: insertName name rest

/-- The different names among some, in ascending order. -/
def distinctNames (names : List String) : List String :=
  names.foldl (fun done name => insertName name done) []

/-- The last price seen in every column, if there is one. -/
abbrev Seen := List (String × Option Float)

/-- Nothing seen in any column. -/
def nothingSeen (columns : List String) : Seen :=
  columns.map (fun name => (name, none))

/-- A price seen in a column. -/
def Seen.record (name : String) (price : Float) (seen : Seen) : Seen :=
  seen.map (fun (n, old) => (n, if n = name then some price else old))

/-- The values of a row: the last price of every column, if all columns have one. -/
def Seen.values? (seen : Seen) : Option (List Float) :=
  seen.mapM (fun (_, price) => price)

/-- The rows at grid points between two observations. -/
def Seen.rowsAt (seen : Seen) (points : List Int) : List Row :=
  match seen.values? with
  | none => []
  | some values => points.map (fun second => ⟨Instant.ofSeconds second, values⟩)

/-- Passes the grid points that lie before an instant: the next grid point and the passed ones, the
last one first.  Nothing if the next grid point lies past the end of the calendar. -/
def advance (step : Nat) (positive : 0 < step) (t : Instant) (cursor : Int) (passed : List Int) :
    Option (Int × List Int) :=
  if h : Instant.ofSeconds cursor < t then
    if Instant.endSecond ≤ cursor + step then none
    else
      have : (t.seconds + 1 - (cursor + step)).toNat < (t.seconds + 1 - cursor).toNat := by
        rw [Instant.lt_def] at h
        simp only [Instant.ofSeconds] at h
        omega
      advance step positive t (cursor + step) (cursor :: passed)
  else some (cursor, passed)
termination_by (t.seconds + 1 - cursor).toNat

/-- What a sweep leaves behind. -/
structure Swept where
  cursor : Int
  rows : List Row

/-- Sweeps observations that are in the order of their times. -/
def sweep (step : Nat) (positive : 0 < step) (cursor : Int) (seen : Seen) :
    List Observation → Option Swept
  | [] => some ⟨cursor, []⟩
  | o :: rest =>
    match advance step positive o.time cursor [] with
    | none => none
    | some (next, passed) =>
      match sweep step positive next (seen.record o.name o.price) rest with
      | none => none
      | some after => some ⟨after.cursor, seen.rowsAt passed.reverse ++ after.rows⟩

/-- Observations in the order of their times; those of one time keep their order. -/
def inOrder (observations : List Observation) : List Observation :=
  observations.mergeSort (fun a b => decide (a.time ≤ b.time))

/-- The names of the columns that observations belong to. -/
def columnsOf (observations : List Observation) : List String :=
  distinctNames (observations.map Observation.name)

/-- The grid of some observations with a step of some hours. -/
def ofObservations (stepHours : Nat) (observations : List Observation) :
    Except (Stop ForecastFault) Grid :=
  if h : 0 < stepHours then
    match inOrder observations with
    | [] => .error (.fault (.invalidInput "cannot resample an empty observation list"))
    | first :: rest =>
      let columns := columnsOf (first :: rest)
      match sweep (stepHours * secondsPerHour) (Nat.mul_pos h (by decide)) first.time.midnight
          (nothingSeen columns) (first :: rest) with
      | none => .error (.abort .calendarEnd)
      | some swept => .ok ⟨columns, stepHours, swept.rows⟩
  else .error (.fault (.invalidInput "step_hours must be positive"))

end SpotForecast.Grid
