import Mathlib.Data.List.Basic
import SpotForecast.Calendar.Pattern
import SpotForecast.Proofs.Decimal.Fixed

/-!
# Dates and the days that they name

Every day has a date, and counting the days up to that date gives the day again (`ofDay_spec`).

* `firstDayOfYear_succ` says that a year is as long as its months.
* `yearOfDay_spec` says that the year found for a day holds it; the quotient that it starts from is
  off by one year at most.
* `exists_splitOrdinal` finds the month in the same way as one counts by hand.

`ShowsTime` says what a time to the second looks like: a date, and then the time of the day.
`showsTime_render` says that the pattern of the tables shows the time of every row in this way.
-/

namespace SpotForecast

namespace Date

/-! ### Years -/

theorem sum_monthLengths (year : Int) :
    (monthLengths year).sum = if isLeapYear year then 366 else 365 := by
  rw [monthLengths]
  cases isLeapYear year <;> rfl

/-- Behind the days of a year comes the first day of the next one. -/
theorem firstDayOfYear_succ (year : Int) :
    firstDayOfYear (year + 1) = firstDayOfYear year + (monthLengths year).sum := by
  rw [sum_monthLengths, firstDayOfYear, firstDayOfYear, isLeapYear]
  simp only [Bool.and_eq_true, Bool.or_eq_true, beq_iff_eq, bne_iff_ne, ne_eq]
  split <;> omega

/-- A year begins about where it would if all years had their mean length. -/
theorem firstDayOfYear_bounds (year : Int) :
    146097 * (year - 1) - 700 < 400 * (firstDayOfYear year + 719162) ∧
      400 * (firstDayOfYear year + 719162) < 146097 * (year - 1) + 400 := by
  rw [firstDayOfYear]
  constructor <;> omega

/-- **Years.**  A day lies in its year. -/
theorem yearOfDay_spec (day : Int) :
    firstDayOfYear (yearOfDay day) ≤ day ∧ day < firstDayOfYear (yearOfDay day + 1) := by
  rw [yearOfDay]
  generalize hguess : 400 * (day + 719162) / 146097 + 1 = guess
  split
  · have hyear := firstDayOfYear_bounds (guess - 1)
    rw [Int.sub_add_cancel]
    omega
  · split
    · have hnext := firstDayOfYear_bounds (guess + 1 + 1)
      omega
    · omega

/-! ### Months -/

/-- A day of the year falls into a month, behind the months before that one. -/
theorem exists_splitOrdinal {lengths : List Nat} {rest : Nat} (month : Nat)
    (h : rest < lengths.sum) :
    ∃ k day, splitOrdinal month lengths rest = (month + k, day + 1) ∧ k < lengths.length ∧
      day < lengths.getD k 0 ∧ (lengths.take k).sum + day = rest := by
  induction lengths generalizing month rest with
  | nil => cases h
  | cons length lengths ih =>
      rw [splitOrdinal]
      split
      · rename_i hrest
        exact ⟨0, rest, rfl, Nat.succ_pos _, hrest, Nat.zero_add rest⟩
      · rename_i hrest
        rw [List.sum_cons] at h
        have hlater : rest - length < lengths.sum := by omega
        obtain ⟨k, day, hsplit, hk, hday, hsum⟩ := ih (month + 1) hlater
        refine ⟨k + 1, day, ?_, Nat.succ_lt_succ hk, hday, ?_⟩
        · rw [hsplit, Nat.add_assoc, Nat.add_comm 1 k]
        · rw [List.take_succ_cons, List.sum_cons]
          omega

theorem foldl_add (lengths : List Nat) (day : Nat) :
    lengths.foldl Nat.add day = lengths.sum + day := by
  induction lengths generalizing day with
  | nil => rw [List.foldl_nil, List.sum_nil, Nat.zero_add]
  | cons length rest ih =>
      rw [List.foldl_cons, ih, List.sum_cons, Nat.add_eq]
      omega

/-- **Dates.**  Every day has a date, and the date names the day. -/
theorem ofDay_spec (day : Int) : (ofDay day).exists? = true ∧ (ofDay day).toDay = day := by
  obtain ⟨hfirst, hnext⟩ := yearOfDay_spec day
  rw [firstDayOfYear_succ] at hnext
  have hrest : (day - firstDayOfYear (yearOfDay day)).toNat <
      (monthLengths (yearOfDay day)).sum := by omega
  obtain ⟨k, d, hsplit, hk, hd, hsum⟩ := exists_splitOrdinal 1 hrest
  have hdate : ofDay day = ⟨yearOfDay day, 1 + k, d + 1⟩ := by
    rw [ofDay]
    simp only [hsplit]
  have hmonth : 1 + k - 1 = k := Nat.add_sub_cancel_left 1 k
  have hmonths : (monthLengths (yearOfDay day)).length = 12 := rfl
  constructor
  · rw [hdate, exists?]
    simp only [hmonth, Bool.and_eq_true, decide_eq_true_eq]
    omega
  · rw [hdate, toDay, ordinal]
    simp only [hmonth, foldl_add]
    omega

/-- The months and the days of a month have two digits at most. -/
theorem month_le_and_day_le {d : Date} (h : d.exists? = true) : d.month ≤ 12 ∧ d.day ≤ 31 := by
  have hlengths : ∀ length ∈ monthLengths d.year, length ≤ 31 := by
    rw [monthLengths]
    cases isLeapYear d.year <;> decide
  simp only [exists?, Bool.and_eq_true, decide_eq_true_eq] at h
  obtain ⟨⟨⟨-, hmonth⟩, -⟩, hday⟩ := h
  refine ⟨hmonth, Nat.le_trans hday ?_⟩
  rw [List.getD_eq_getElem?_getD]
  cases hlength : (monthLengths d.year)[d.month - 1]? with
  | none => exact Nat.zero_le 31
  | some length => exact hlengths length (List.mem_of_getElem? hlength)

end Date

/-! ### The time of day -/

namespace Instant

variable {t : Instant}

theorem date_exists (t : Instant) : t.date.exists? = true :=
  (Date.ofDay_spec t.day).1

theorem hour_lt (t : Instant) : t.hour < 24 := by
  rw [hour, secondOfDay, secondsPerDay]
  omega

theorem minute_lt (t : Instant) : t.minute < 60 :=
  Nat.mod_lt _ (by decide)

theorem second_eq (ht : t.nanos = 0) : t.second = t.secondOfDay % 60 := by
  rw [second, ht, Nat.zero_div, Nat.add_zero]

theorem second_lt (ht : t.nanos = 0) : t.second < 60 :=
  second_eq ht ▸ Nat.mod_lt _ (by decide)

/-- A second is counted by its date and the time of the day, be it a leap second or not. -/
theorem seconds_eq_add (t : Instant) :
    t.date.toDay * secondsPerDay + t.hour * 3600 + t.minute * 60 + (t.secondOfDay % 60 : Nat) =
      t.seconds := by
  have hday : t.date.toDay = t.seconds / 86400 := by
    rw [date, (Date.ofDay_spec t.day).2, day, secondsPerDay]
  have hofDay : (t.secondOfDay : Int) = t.seconds % 86400 := by
    rw [secondOfDay, secondsPerDay]
    omega
  have hhour : t.hour = t.secondOfDay / 3600 := rfl
  have hminute : t.minute = t.secondOfDay / 60 % 60 := rfl
  rw [hday, secondsPerDay]
  omega

theorem seconds_eq (ht : t.nanos = 0) :
    t.date.toDay * secondsPerDay + t.hour * 3600 + t.minute * 60 + t.second = t.seconds := by
  rw [second_eq ht, seconds_eq_add]

end Instant

/-! ### The written form -/

/-- The text of an instant at which a second begins: its date, with at least four digits for the
year, and the time of the day. -/
inductive ShowsTime : Instant → List Char → Prop where
  | intro {date : Date} {hour minute second : Nat} (hdate : date.exists? = true)
      (hhour : hour < 24) (hminute : minute < 60) (hsecond : second < 60) :
      ShowsTime
        (.ofSeconds (date.toDay * Instant.secondsPerDay + hour * 3600 + minute * 60 + second))
        (Instant.yearText date.year ++ '-' :: Instant.twoDigits date.month ++
          '-' :: Instant.twoDigits date.day ++ ' ' :: Instant.twoDigits hour ++
          ':' :: Instant.twoDigits minute ++ ':' :: Instant.twoDigits second)

namespace Pattern

/-- The date and the time of day, to the second. -/
def secondParts : List Part :=
  [.number .year .zero, .literal '-', .number .month .zero, .literal '-', .number .day .zero,
    .literal ' ', .number .hour .zero, .literal ':', .number .minute .zero, .literal ':',
    .number .second .zero]

theorem parse_secondParts : parse "%Y-%m-%d %H:%M:%S" = some secondParts := by
  rfl

theorem twoPlaces_zero (n : Nat) :
    twoPlaces .zero n = [Char.ofNat (48 + n / 10), Char.ofNat (48 + n % 10)] := by
  rw [twoPlaces.eq_def]
  cases n / 10 <;> rfl

theorem twoPlaces_eq {n : Nat} (h : n < 100) : twoPlaces .zero n = Instant.twoDigits n := by
  have hdigit : ∀ d < 10, Char.ofNat (48 + d) = d.digitChar := by decide
  have htens : n / 10 < 10 := by omega
  have hones : n % 10 < 10 := Nat.mod_lt n (by decide)
  calc twoPlaces .zero n
      = [Char.ofNat (48 + n / 10), Char.ofNat (48 + n % 10)] := twoPlaces_zero n
    _ = [(n / 10).digitChar, (n % 10).digitChar] := by rw [hdigit _ htens, hdigit _ hones]
    _ = Decimal.padded '0' 1 (n / 10) ++ [(n % 10).digitChar] := by
      rw [Decimal.padded_one, Decimal.digitsOf_of_lt htens]
      rfl
    _ = Instant.twoDigits n := (Decimal.padded_succ (by decide) n).symm

theorem yearPlaces_eq (year : Int) : yearPlaces .zero year = Instant.yearText year := by
  rw [yearPlaces, Instant.yearText]
  split <;> rfl

/-- The date and the time of day are written as everywhere else. -/
theorem render_secondParts {t : Instant} (ht : t.nanos = 0) :
    render secondParts t =
      Instant.yearText t.date.year ++ '-' :: Instant.twoDigits t.date.month ++
        '-' :: Instant.twoDigits t.date.day ++ ' ' :: Instant.twoDigits t.hour ++
        ':' :: Instant.twoDigits t.minute ++ ':' :: Instant.twoDigits t.second := by
  obtain ⟨hmonth, hday⟩ := Date.month_le_and_day_le t.date_exists
  have hhour := t.hour_lt
  have hminute := t.minute_lt
  have hsecond := Instant.second_lt ht
  have htwo : ∀ n < 100, Instant.twoDigits n = twoPlaces .zero n :=
    fun n hn => (twoPlaces_eq hn).symm
  rw [← yearPlaces_eq, htwo t.date.month (by omega), htwo t.date.day (by omega)]
  rw [htwo t.hour (by omega), htwo t.minute (by omega), htwo t.second (by omega)]
  simp [render, secondParts, Part.render, Quantity.render]

/-- **Times.**  The tables show every instant at which a second begins. -/
theorem showsTime_render {t : Instant} (ht : t.nanos = 0) :
    ShowsTime t (render secondParts t) := by
  have hwhole : Instant.ofSeconds t.seconds = t := by
    rw [Instant.ofSeconds, ← ht]
  have hshows := ShowsTime.intro t.date_exists t.hour_lt t.minute_lt (Instant.second_lt ht)
  rw [Instant.seconds_eq ht, ← render_secondParts ht, hwhole] at hshows
  exact hshows

end Pattern

end SpotForecast
