import Mathlib.Order.Defs.LinearOrder
import SpotForecast.Calendar.Instant

/-!
# The order of instants

Instants are linearly ordered by second and nanosecond.  A grid point is the start of a second, so
comparing an instant with grid points is comparing one whole number with others:
`Instant.nextSecond` is the first second that does not begin before an instant, and
`Instant.ofSeconds_lt_iff` says that exactly the seconds before it begin before the instant.

Between instants that are no leap seconds, `Instant.nanosUntil` is the time that passes.  A time of
whole seconds that passes between two instants lies also between their next seconds
(`nextSecond_add_le`, `nextSecond_le_add`).
-/

namespace SpotForecast.Instant

/-- Instants are compared by second and then by nanosecond; no two of them are tied. -/
instance : LinearOrder Instant where
  le_refl a := by simp [le_def]
  le_trans a b c := by simp only [le_def]; omega
  lt_iff_le_not_ge a b := by simp only [le_def, lt_def]; omega
  le_antisymm a b := by
    intro hab hba
    simp only [le_def] at hab hba
    obtain ⟨s, n⟩ := a
    obtain ⟨s', n'⟩ := b
    have hs : s = s' := by simp only at hab hba; omega
    have hn : n = n' := by simp only at hab hba; omega
    rw [hs, hn]
  le_total a b := by simp only [le_def]; omega
  toDecidableLE := inferInstance
  toDecidableLT := inferInstance

/-- The first second that does not begin before an instant. -/
def nextSecond (t : Instant) : Int :=
  if t.nanos = 0 then t.seconds else t.seconds + 1

/-- A second begins before an instant exactly if it is an earlier second than the next one. -/
theorem ofSeconds_lt_iff (second : Int) (t : Instant) :
    ofSeconds second < t ↔ second < t.nextSecond := by
  simp only [lt_def, ofSeconds, nextSecond]
  split <;> omega

/-- Seconds begin in their order. -/
theorem ofSeconds_lt_ofSeconds {a b : Int} : ofSeconds a < ofSeconds b ↔ a < b := by
  simp [lt_def, ofSeconds]

/-- **Midnight.**  The midnight of an instant is the start of a day, counted from 1970, that is not
after the instant and less than a day before it. -/
theorem midnight_eq_iff {t : Instant} {second : Int} :
    t.midnight = second ↔
      86400 ∣ second ∧ second ≤ t.seconds ∧ t.seconds < second + 86400 := by
  rw [midnight, secondsPerDay]
  omega

theorem midnight_bounds (t : Instant) :
    86400 ∣ t.midnight ∧ t.midnight ≤ t.seconds ∧ t.seconds < t.midnight + 86400 :=
  midnight_eq_iff.mp rfl

/-- A day begins no later than any of its instants. -/
theorem midnight_le (t : Instant) : ofSeconds t.midnight ≤ t := by
  obtain ⟨-, hle, -⟩ := t.midnight_bounds
  simp only [le_def, ofSeconds]
  omega

theorem inCalendar_ofSeconds_iff (second : Int) :
    (ofSeconds second).inCalendar = true ↔ firstSecond ≤ second ∧ second < endSecond := by
  simp only [inCalendar, Bool.and_eq_true, decide_eq_true_eq]
  rfl

/-- The calendar has whole days only. -/
theorem inCalendar_midnight {t : Instant} (ht : t.inCalendar = true) :
    (ofSeconds t.midnight).inCalendar = true := by
  have hfirst : firstSecond = Date.firstDay * 86400 := rfl
  have hend : endSecond = (Date.lastDay + 1) * 86400 := rfl
  obtain ⟨hday, hle, hlt⟩ := t.midnight_bounds
  simp only [inCalendar, Bool.and_eq_true, decide_eq_true_eq] at ht
  rw [inCalendar_ofSeconds_iff]
  omega

/-- What begins past the calendar is not before an instant within it. -/
theorem not_ofSeconds_lt_of_endSecond_le {second : Int} {t : Instant} (ht : t.inCalendar = true)
    (h : endSecond ≤ second) : ¬ofSeconds second < t := by
  simp only [inCalendar, Bool.and_eq_true, decide_eq_true_eq] at ht
  simp only [lt_def, ofSeconds]
  omega

/-- An instant is no leap second. -/
def Regular (t : Instant) : Prop :=
  t.nanos < nanosPerSecond

instance (t : Instant) : Decidable t.Regular :=
  inferInstanceAs (Decidable (_ < _))

/-- The number of nanoseconds from one instant to another, if neither is a leap second. -/
def nanosUntil (a b : Instant) : Int :=
  (b.seconds - a.seconds) * nanosPerSecond + (b.nanos - a.nanos)

variable {a b start stop : Instant} {seconds days : Nat}

theorem nextSecond_add_le (ha : a.Regular) (hb : b.Regular)
    (h : (seconds : Int) * nanosPerSecond ≤ a.nanosUntil b) :
    a.nextSecond + seconds ≤ b.nextSecond := by
  simp only [Regular, nanosUntil, nanosPerSecond, nextSecond] at *
  split <;> split <;> omega

theorem nextSecond_le_add (ha : a.Regular) (hb : b.Regular)
    (h : a.nanosUntil b ≤ (seconds : Int) * nanosPerSecond) :
    b.nextSecond ≤ a.nextSecond + seconds := by
  simp only [Regular, nanosUntil, nanosPerSecond, nextSecond] at *
  split <;> split <;> omega

/-- Less time passes between instants inside a window than from its start to its end. -/
theorem nanosUntil_le (hstart : start.Regular) (hstop : stop.Regular) (ha : a.Regular)
    (hb : b.Regular) (hafter : start ≤ a) (hbefore : b ≤ stop) :
    a.nanosUntil b ≤ start.nanosUntil stop := by
  simp only [Regular, nanosUntil, nanosPerSecond, le_def] at *
  omega

/-- Going back some days from an instant that is no leap second changes only the second. -/
theorem eq_of_daysBefore? (hstop : stop.Regular) (h : stop.daysBefore? days = some start) :
    start = ⟨stop.seconds - days * secondsPerDay, stop.nanos⟩ := by
  have hregular : ¬(nanosPerSecond ≤ stop.nanos ∧ 0 < days) := by
    rw [Regular] at hstop
    omega
  rw [daysBefore?, if_neg hregular, Option.ite_none_right_eq_some, Option.some.injEq] at h
  exact h.2.symm

/-- A window that does not end at a leap second does not begin at one. -/
theorem Regular.of_daysBefore? (hstop : stop.Regular) (h : stop.daysBefore? days = some start) :
    start.Regular := by
  rw [eq_of_daysBefore? hstop h]
  exact hstop

theorem le_of_daysBefore? (hstop : stop.Regular) (h : stop.daysBefore? days = some start) :
    start ≤ stop := by
  rw [eq_of_daysBefore? hstop h, le_def]
  simp only [secondsPerDay]
  omega

/-- **Days.**  The days of a window lie between its ends. -/
theorem nanosUntil_of_daysBefore? (hstop : stop.Regular) (h : stop.daysBefore? days = some start) :
    start.nanosUntil stop = days * secondsPerDay * nanosPerSecond := by
  rw [eq_of_daysBefore? hstop h, nanosUntil, Int.sub_sub_self, Int.sub_self, Int.add_zero]

end SpotForecast.Instant
