import SpotForecast.Observation

/-!
# Price history

A history answers with the observations of one category in a window of whole days that ends at a
given instant; both ends belong to the window.

* A text that is no category key has no history: the answer is empty, whatever the window.
* Otherwise the window has to begin within the calendar.
* A fixed history answers every category key with all that it has.
-/

namespace SpotForecast.History

/-- Whether an observation belongs to a category and lies between two instants. -/
def inWindow (category : Category) (start stop : Instant) (o : Observation) : Bool :=
  o.category == category && decide (start ≤ o.time) && decide (o.time ≤ stop)

/-- The observations of a category in the days before an instant, in the order of the feed. -/
def fetch (observations : List Observation) (stop : Instant) (category : String) (days : Nat) :
    Except (Stop SourceFault) (List Observation) :=
  match Category.parse? category with
  | none => .ok []
  | some key =>
    match stop.daysBefore? days with
    | none => .error (.abort .calendarStart)
    | some start => .ok (observations.filter (inWindow key start stop))

/-- The answer of a history that does not look at the category or the days. -/
def fetchFixed (observations : List Observation) (category : String) : List Observation :=
  match Category.parse? category with
  | none => []
  | some _ => observations

end SpotForecast.History
