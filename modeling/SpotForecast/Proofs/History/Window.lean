import SpotForecast.History.Window
import SpotForecast.Proofs.Calendar.Order

/-!
# What a window of the price history holds

What can be fetched is settled by three cases: a text that is no category key has no history, a
window that would begin before the calendar is not searched, and otherwise the answer is what has
the key and lies between the ends of the window, both of them included.
-/

namespace SpotForecast.History

variable {observations : List Observation} {stop start : Instant} {category : String}
  {key : Category} {days : Nat}

/-- An observation lies in a window exactly if it has the key and lies between its ends. -/
theorem inWindow_eq_true_iff {o : Observation} :
    inWindow key start stop o = true ↔ o.category = key ∧ start ≤ o.time ∧ o.time ≤ stop := by
  simp [inWindow, and_assoc]

/-- A text that is no key has no history. -/
theorem fetch_of_malformed (h : Category.parse? category = none) :
    fetch observations stop category days = .ok [] := by
  rw [fetch, h]

/-- A window that would begin before the calendar is not searched. -/
theorem fetch_of_tooEarly (hkey : Category.parse? category = some key)
    (hstart : stop.daysBefore? days = none) :
    fetch observations stop category days = .error (.abort .calendarStart) := by
  rw [fetch, hkey]
  simp only [hstart]

/-- The history of a key is what lies in its window, in the order of the feed. -/
theorem fetch_of_key (hkey : Category.parse? category = some key)
    (hstart : stop.daysBefore? days = some start) :
    fetch observations stop category days =
      .ok (observations.filter (inWindow key start stop)) := by
  rw [fetch, hkey]
  simp only [hstart]

end SpotForecast.History
