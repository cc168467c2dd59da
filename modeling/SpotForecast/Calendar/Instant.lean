import SpotForecast.Calendar.Date

/-!
# Instants

An instant is a second since 1970-01-01T00:00:00Z and the nanoseconds into it.  A leap second is
kept inside the second before it, with a thousand million nanoseconds or more; so it comes after
every other instant of that second and before the next one.

* Instants are ordered by second, then by nanosecond.
* `Instant.midnight` is the start of the day, from which a grid is laid out.
* `Instant.daysBefore?` goes back by whole days and fails before the calendar begins.  From a leap
  second it goes back as if from the second that follows.
-/

namespace SpotForecast

/-- A point in time: seconds since the start of 1970, and nanoseconds since that second. -/
structure Instant where
  seconds : Int
  /-- In a leap second there are a thousand million of them or more. -/
  nanos : Nat
deriving DecidableEq, Repr

namespace Instant

/-- The number of seconds of a day. -/
def secondsPerDay : Int := 86400

/-- The number of nanoseconds of a second. -/
def nanosPerSecond : Nat := 1000000000

/-- An instant comes before another one. -/
protected def lt (a b : Instant) : Prop :=
  a.seconds < b.seconds ∨ (a.seconds = b.seconds ∧ a.nanos < b.nanos)

/-- An instant comes before another one or is the same. -/
protected def le (a b : Instant) : Prop :=
  a.seconds < b.seconds ∨ (a.seconds = b.seconds ∧ a.nanos ≤ b.nanos)

instance : LT Instant := ⟨Instant.lt⟩

instance : LE Instant := ⟨Instant.le⟩

instance (a b : Instant) : Decidable (a < b) :=
  inferInstanceAs (Decidable (_ ∨ _))

instance (a b : Instant) : Decidable (a ≤ b) :=
  inferInstanceAs (Decidable (_ ∨ _))

theorem lt_def (a b : Instant) :
    a < b ↔ a.seconds < b.seconds ∨ (a.seconds = b.seconds ∧ a.nanos < b.nanos) :=
  Iff.rfl

theorem le_def (a b : Instant) :
    a ≤ b ↔ a.seconds < b.seconds ∨ (a.seconds = b.seconds ∧ a.nanos ≤ b.nanos) :=
  Iff.rfl

/-- The instant at which a second begins. -/
def ofSeconds (seconds : Int) : Instant :=
  ⟨seconds, 0⟩

/-- The first second of the calendar. -/
def firstSecond : Int :=
  Date.firstDay * secondsPerDay

/-- The second after the last one of the calendar. -/
def endSecond : Int :=
  (Date.lastDay + 1) * secondsPerDay

/-- Whether an instant lies within the calendar. -/
def inCalendar (t : Instant) : Bool :=
  firstSecond ≤ t.seconds && t.seconds < endSecond

/-- The second at which the day of an instant begins. -/
def midnight (t : Instant) : Int :=
  t.seconds - t.seconds % secondsPerDay

/-- The day of an instant. -/
def day (t : Instant) : Int :=
  t.seconds / secondsPerDay

/-- The date of an instant. -/
def date (t : Instant) : Date :=
  Date.ofDay t.day

/-- The seconds since midnight. -/
def secondOfDay (t : Instant) : Nat :=
  (t.seconds % secondsPerDay).toNat

/-- The hour of the day. -/
def hour (t : Instant) : Nat :=
  t.secondOfDay / 3600

/-- The minute of the hour. -/
def minute (t : Instant) : Nat :=
  t.secondOfDay / 60 % 60

/-- The second of the minute; a leap second is second 60. -/
def second (t : Instant) : Nat :=
  t.secondOfDay % 60 + t.nanos / nanosPerSecond

/-- The nanoseconds of the second, of a leap second too. -/
def subsecond (t : Instant) : Nat :=
  t.nanos % nanosPerSecond

/-- The instant some days earlier, if the calendar reaches that far. -/
def daysBefore? (t : Instant) (days : Nat) : Option Instant :=
  let earlier : Instant :=
    if nanosPerSecond ≤ t.nanos ∧ 0 < days then
      ⟨t.seconds + 1 - days * secondsPerDay, t.nanos - nanosPerSecond⟩
    else ⟨t.seconds - days * secondsPerDay, t.nanos⟩
  if firstSecond ≤ earlier.seconds then some earlier else none

end Instant

end SpotForecast
