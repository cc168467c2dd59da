import SpotForecast.Calendar.Timestamp
import SpotForecast.Category
import SpotForecast.Json.Reader
import SpotForecast.Json.Writer

/-!
# Observations

An observation is one price of one category at one instant.  In a grid the written form of its
category is the name of its column.

As a JSON document an observation has the members `timestamp`, `price` and `category`.  It is read
from such an object, further members being passed over whatever they hold, or from an array of the
three values.
-/

namespace SpotForecast

/-- A price that was seen. -/
structure Observation where
  time : Instant
  price : Float
  category : Category
deriving DecidableEq

namespace Observation

/-- The name of the column that an observation belongs to. -/
def name (o : Observation) : String :=
  o.category.canonical

/-- An observation as a JSON object. -/
def toJson (o : Observation) : Json :=
  .object [("timestamp", .string o.time.rfc3339), ("price", .number (.real o.price)),
    ("category", o.category.toJson)]

/-- The observation that is written. -/
def ofWritten? (w : Json.Written) : Option Observation :=
  match Json.Written.parts? ["timestamp", "price", "category"] w with
  | some [time, price, category] => do
    let text ← time.text?
    pure ⟨← Timestamp.ofDocument? text.toList, ← price.float?, ← Category.ofWritten? category⟩
  | _ => none

/-- The observation that a text denotes. -/
def read? (text : String) : Option Observation :=
  (Json.written? text).bind ofWritten?

end Observation

end SpotForecast
