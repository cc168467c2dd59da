import SpotForecast.Calendar.Timestamp
import SpotForecast.Json.Reader
import SpotForecast.Json.Writer

/-!
# Forecasts

A forecast is the expected mean and standard deviation of a category's price over some days.

As a JSON document a forecast has the members `mean`, `stdDeviation`, `generatedAt`, `horizonDays`
and `category`.  It is read from such an object, further members being passed over whatever they
hold, or from an array of the five values; all of them are required, and `null` is no number.
-/

namespace SpotForecast

/-- The expected price of a category. -/
structure Forecast where
  mean : Float
  stdDeviation : Float
  generatedAt : Instant
  horizonDays : Nat
  category : String
deriving DecidableEq

namespace Forecast

/-- The number of days of a forecast lies below this number. -/
def horizonLimit : Nat := Decimal.limit32

/-- A forecast as a JSON object. -/
def toJson (f : Forecast) : Json :=
  .object [("mean", .number (.real f.mean)), ("stdDeviation", .number (.real f.stdDeviation)),
    ("generatedAt", .string f.generatedAt.rfc3339),
    ("horizonDays", .number (.integer f.horizonDays)), ("category", .string f.category)]

/-- The names of the members, in the order in which they are written. -/
def memberNames : List String :=
  ["mean", "stdDeviation", "generatedAt", "horizonDays", "category"]

/-- The forecast that is written. -/
def ofWritten? (w : Json.Written) : Option Forecast :=
  match Json.Written.parts? memberNames w with
  | some [mean, stdDeviation, generatedAt, horizonDays, category] => do
    let text ← generatedAt.text?
    pure ⟨← mean.float?, ← stdDeviation.float?, ← Timestamp.ofDocument? text.toList,
      ← horizonDays.natBelow? horizonLimit, ← category.text?⟩
  | _ => none

/-- The forecast that a text denotes. -/
def read? (text : String) : Option Forecast :=
  (Json.written? text).bind ofWritten?

end Forecast

end SpotForecast
