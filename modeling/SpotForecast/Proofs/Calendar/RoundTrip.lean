import SpotForecast.Proofs.Calendar.Dates

/-!
# Times that are written and read

The time that a document shows is read back from it (`ofDocument?_rfc3339`), for every year of the
calendar and every fraction of a second.

A leap second is shown as second 60, and only a minute's last second has one behind it.  An instant
may hold the nanoseconds of a leap second in another second of its minute too.  It is shown as the
second behind that one, and that second is what is read (`Instant.shown`).
-/

namespace SpotForecast

variable {c : Char} {cs rest : List Char} {width n : Nat}

namespace Decimal

theorem isBlank_of_isDigit (h : isDigit c = true) : Text.isBlank c = false := by
  have hzero : '0'.val.toNat = 48 := rfl
  have hnine : '9'.val.toNat = 57 := rfl
  have hc : c.toNat = c.val.toNat := rfl
  simp only [isDigit, Bool.and_eq_true, decide_eq_true_eq, Char.le_def, UInt32.le_iff_toNat_le] at h
  simp only [Text.isBlank, Bool.or_eq_false_iff, Bool.and_eq_false_iff, decide_eq_false_iff_not,
    beq_eq_false_iff_ne]
  omega

theorem exists_padded_eq_cons (width n : Nat) :
    ∃ c front, padded '0' width n = c :: front ∧ isDigit c = true := by
  obtain ⟨c, front, hcons⟩ := List.exists_cons_of_ne_nil (padded_ne_nil width n)
  exact ⟨c, front, hcons, isDigit_of_mem_padded (hcons ▸ List.mem_cons_self)⟩

@[simp] theorem isEmpty_padded (width n : Nat) : (padded '0' width n).isEmpty = false :=
  List.isEmpty_eq_false_iff.mpr (padded_ne_nil width n)

theorem trimStart_padded (width n : Nat) (rest : List Char) :
    Text.trimStart (padded '0' width n ++ rest) = padded '0' width n ++ rest := by
  obtain ⟨c, front, hcons, hc⟩ := exists_padded_eq_cons width n
  rw [hcons, List.cons_append, Text.trimStart, List.dropWhile_cons_of_neg]
  rw [isBlank_of_isDigit hc]
  exact Bool.false_ne_true

/-- Digits are read up to what is no digit. -/
theorem spanDigits_padded (hc : isDigit c = false) (width n : Nat) (rest : List Char) :
    spanDigits (padded '0' width n ++ c :: rest) = (padded '0' width n, c :: rest) := by
  have hdigits : ∀ d ∈ padded '0' width n, isDigit d = true := fun d => isDigit_of_mem_padded
  have hno : ¬isDigit c = true := by simp [hc]
  have htaken : (padded '0' width n ++ c :: rest).takeWhile isDigit = padded '0' width n := by
    rw [List.takeWhile_append_of_pos hdigits, List.takeWhile_cons_of_neg hno, List.append_nil]
  have hleft : (padded '0' width n ++ c :: rest).dropWhile isDigit = c :: rest := by
    rw [List.dropWhile_append_of_pos hdigits, List.dropWhile_cons_of_neg hno]
  rw [spanDigits, htaken, hleft]

end Decimal

namespace Timestamp

/-- A number is read back from the digits that are kept free for it. -/
theorem atMost_padded (hn : n < 10 ^ width) (hwidth : 0 < width) (rest : List Char) :
    atMost width (Decimal.padded '0' width n ++ rest) = some (n, rest) := by
  have hlength := Decimal.length_padded hn hwidth
  have hdigits : ∀ d ∈ Decimal.padded '0' width n, Decimal.isDigit d = true :=
    fun d => Decimal.isDigit_of_mem_padded
  have hspan : Decimal.spanDigitsUpTo width (Decimal.padded '0' width n ++ rest) =
      (Decimal.padded '0' width n, rest) := by
    simp only [Decimal.spanDigitsUpTo, List.take_left' hlength,
      List.takeWhile_eq_self_iff.mpr hdigits, List.drop_left]
  rw [atMost, Decimal.trimStart_padded]
  simp only [hspan, Decimal.isEmpty_padded, Bool.false_eq_true, if_false, Decimal.valueOf_padded]

theorem unbounded_padded (hc : Decimal.isDigit c = false) (width n : Nat) (rest : List Char) :
    unbounded (Decimal.padded '0' width n ++ c :: rest) = some (n, c :: rest) := by
  rw [unbounded, Decimal.spanDigits_padded hc]
  simp only [Decimal.isEmpty_padded, Bool.false_eq_true, if_false, Decimal.valueOf_padded]

theorem signedYear_of_isDigit (hc : Decimal.isDigit c = true) (cs : List Char) :
    signedYear (c :: cs) = (atMost 4 (c :: cs)).map (fun (n, rest) => ((n : Int), rest)) := by
  have hblank : ¬Text.isBlank c = true := by
    rw [Decimal.isBlank_of_isDigit hc]
    exact Bool.false_ne_true
  rw [signedYear, Text.trimStart, List.dropWhile_cons_of_neg hblank]
  split
  · rename_i h
    cases h
    cases hc
  · rename_i h
    cases h
    cases hc
  · rfl

/-- Years within four digits and years with a sign are read back. -/
theorem signedYear_yearText (year : Int) (rest : List Char) :
    signedYear (Instant.yearText year ++ '-' :: rest) = some (year, '-' :: rest) := by
  rw [Instant.yearText]
  split
  · rename_i hyear
    have hvalue : (year.natAbs : Int) = year := by omega
    have hread : atMost 4 (Decimal.padded '0' 4 year.natAbs ++ '-' :: rest) =
        some (year.natAbs, '-' :: rest) := atMost_padded (by omega) (by decide) _
    obtain ⟨c, front, hcons, hc⟩ := Decimal.exists_padded_eq_cons 4 year.natAbs
    rw [hcons, List.cons_append] at hread ⊢
    rw [signedYear_of_isDigit hc, hread, Option.map_some]
    simp only [hvalue]
  · have hread : unbounded (Decimal.padded '0' 4 year.natAbs ++ '-' :: rest) =
        some (year.natAbs, '-' :: rest) := unbounded_padded rfl 4 year.natAbs rest
    by_cases hnegative : year < 0
    · have hvalue : -(year.natAbs : Int) = year := by omega
      have hsign : ∀ cs, signedYear ('-' :: cs) =
          (unbounded cs).map (fun (n, rest) => (-(n : Int), rest)) := fun _ => rfl
      rw [if_pos hnegative, List.cons_append, hsign, hread, Option.map_some]
      simp only [hvalue]
    · have hvalue : (year.natAbs : Int) = year := by omega
      have hsign : ∀ cs, signedYear ('+' :: cs) =
          (unbounded cs).map (fun (n, rest) => ((n : Int), rest)) := fun _ => rfl
      rw [if_neg hnegative, List.cons_append, hsign, hread, Option.map_some]
      simp only [hvalue]

/-- The digits of a fraction count from the point. -/
theorem fraction_padded (hn : n < 10 ^ width) (hpos : 0 < width) (hwidth : width ≤ 9) :
    fraction ('.' :: Decimal.padded '0' width n ++ ['Z']) =
      some (n * 10 ^ (9 - width), ['Z']) := by
  have hlength := Decimal.length_padded hn hpos
  have hkept : (Decimal.padded '0' width n).take 9 = Decimal.padded '0' width n :=
    List.take_of_length_le (by omega)
  rw [List.cons_append, fraction, Decimal.spanDigits_padded rfl]
  simp only [hkept, Decimal.isEmpty_padded, hlength, Bool.false_eq_true, if_false,
    Decimal.valueOf_padded, Nat.pow_eq]

theorem fraction_fractionText (t : Instant) :
    fraction (t.fractionText ++ ['Z']) = some (t.subsecond, ['Z']) := by
  have hlt : t.subsecond < 10 ^ 9 := Nat.mod_lt _ (by decide)
  rw [Instant.fractionText, Instant.fractionDigits]
  split
  · rename_i hzero
    rw [hzero]
    rfl
  · split
    · rename_i hmillis
      rw [fraction_padded (by omega) (by decide) (by decide)]
      have hvalue : t.subsecond / 1000000 * 10 ^ (9 - 3) = t.subsecond := by omega
      rw [hvalue]
    · split
      · rename_i hmicros
        have hvalue : t.subsecond / 1000 * 10 ^ (9 - 6) = t.subsecond := by omega
        rw [fraction_padded (by omega) (by decide) (by decide), hvalue]
      · rw [fraction_padded hlt (by decide) (by decide), Nat.sub_self, Nat.pow_zero, Nat.mul_one]

/-- The numbers that are shown for an instant. -/
def Fields.ofInstant (t : Instant) : Fields :=
  ⟨t.date, t.hour, t.minute, t.second, t.subsecond, 0⟩

theorem atMost_twoDigits (hn : n < 100) (rest : List Char) :
    atMost 2 (Instant.twoDigits n ++ rest) = some (n, rest) :=
  atMost_padded hn (by decide) rest

/-- **Fields.**  The numbers that are shown are read. -/
theorem relaxed_rfc3339 {t : Instant} (hsecond : t.second < 100) :
    relaxed t.rfc3339.toList = some (.ofInstant t) := by
  obtain ⟨hmonth, hday⟩ := Date.month_le_and_day_le t.date_exists
  have hmonth' : t.date.month < 100 := by omega
  have hday' : t.date.day < 100 := by omega
  have hhour : t.hour < 100 := Nat.lt_trans t.hour_lt (by decide)
  have hminute : t.minute < 100 := Nat.lt_trans t.minute_lt (by decide)
  have hhyphen : ∀ rest, oneOf ['-'] (Text.trimStart ('-' :: rest)) = some rest := fun _ => rfl
  have hcolon : ∀ rest, oneOf [':'] (Text.trimStart (':' :: rest)) = some rest := fun _ => rfl
  have hmiddle : ∀ rest, oneOf ['T', 't', ' '] ('T' :: rest) = some rest := fun _ => rfl
  have hzone : relaxedOffset ['Z'] = some (0, []) := rfl
  rw [Instant.rfc3339, String.toList_ofList, Instant.rfc3339Chars]
  simp only [List.append_assoc, List.cons_append]
  refine Option.bind_eq_some_iff.mpr ⟨_, signedYear_yearText _ _, ?_⟩
  refine Option.bind_eq_some_iff.mpr ⟨_, hhyphen _, ?_⟩
  refine Option.bind_eq_some_iff.mpr ⟨_, atMost_twoDigits hmonth' _, ?_⟩
  refine Option.bind_eq_some_iff.mpr ⟨_, hhyphen _, ?_⟩
  refine Option.bind_eq_some_iff.mpr ⟨_, atMost_twoDigits hday' _, ?_⟩
  refine Option.bind_eq_some_iff.mpr ⟨_, hmiddle _, ?_⟩
  refine Option.bind_eq_some_iff.mpr ⟨_, atMost_twoDigits hhour _, ?_⟩
  refine Option.bind_eq_some_iff.mpr ⟨_, hcolon _, ?_⟩
  refine Option.bind_eq_some_iff.mpr ⟨_, atMost_twoDigits hminute _, ?_⟩
  refine Option.bind_eq_some_iff.mpr ⟨_, hcolon _, ?_⟩
  refine Option.bind_eq_some_iff.mpr ⟨_, atMost_twoDigits hsecond _, ?_⟩
  refine Option.bind_eq_some_iff.mpr ⟨_, fraction_fractionText t, ?_⟩
  exact Option.bind_eq_some_iff.mpr ⟨_, hzone, rfl⟩

end Timestamp

namespace Date

/-- A year begins no later than the years behind it. -/
theorem firstDayOfYear_le {a b : Int} (h : a ≤ b) : firstDayOfYear a ≤ firstDayOfYear b := by
  rw [firstDayOfYear, firstDayOfYear]
  omega

/-- The days of the calendar lie in its years. -/
theorem year_ofDay_bounds {day : Int} (hfirst : firstDay ≤ day) (hlast : day ≤ lastDay) :
    firstYear ≤ (ofDay day).year ∧ (ofDay day).year ≤ lastYear := by
  have hyear : (ofDay day).year = yearOfDay day := rfl
  obtain ⟨hbegin, hend⟩ := yearOfDay_spec day
  rw [hyear]
  constructor
  · apply Int.not_lt.mp
    intro hlt
    have hle := firstDayOfYear_le (Int.add_one_le_of_lt hlt)
    rw [firstDay] at hfirst
    omega
  · apply Int.not_lt.mp
    intro hlt
    have hle := firstDayOfYear_le (Int.add_one_le_of_lt hlt)
    rw [lastDay] at hlast
    omega

end Date

namespace Instant

variable {t : Instant}

/-- An instant with the nanoseconds of a leap second has the last second of a minute. -/
def Proper (t : Instant) : Prop :=
  nanosPerSecond ≤ t.nanos → t.seconds % 60 = 59

instance (t : Instant) : Decidable t.Proper :=
  inferInstanceAs (Decidable (_ → _))

/-- The instant that is shown: a leap second inside a minute is shown as the second behind it. -/
def shown (t : Instant) : Instant :=
  if t.Proper then t else ⟨t.seconds + 1, t.nanos - nanosPerSecond⟩

theorem shown_eq_iff : t.shown = t ↔ t.Proper := by
  rw [shown]
  split
  · rename_i hproper
    exact ⟨fun _ => hproper, fun _ => rfl⟩
  · rename_i hproper
    refine ⟨?_, fun h => absurd h hproper⟩
    intro h
    have hseconds := congrArg seconds h
    simp only at hseconds
    omega

/-- The second behind one inside a minute has the same minute, so it is in the calendar too. -/
theorem inCalendar_shown (ht : t.inCalendar = true) : t.shown.inCalendar = true := by
  have hend : endSecond = (Date.lastDay + 1) * 86400 := rfl
  rw [shown]
  split
  · exact ht
  · rename_i hproper
    simp only [Proper] at hproper
    simp only [inCalendar, Bool.and_eq_true, decide_eq_true_eq] at ht ⊢
    omega

theorem second_of_lt (h : t.nanos < nanosPerSecond) :
    t.second = t.secondOfDay % 60 ∧ t.subsecond = t.nanos := by
  rw [second, subsecond, Nat.div_eq_of_lt h, Nat.mod_eq_of_lt h]
  exact ⟨rfl, rfl⟩

theorem second_of_le (h : nanosPerSecond ≤ t.nanos) (hnanos : t.nanos < 2 * nanosPerSecond) :
    t.second = t.secondOfDay % 60 + 1 ∧ t.subsecond = t.nanos - nanosPerSecond := by
  rw [second, subsecond]
  rw [nanosPerSecond] at *
  omega

theorem second_le (hnanos : t.nanos < 2 * nanosPerSecond) : t.second ≤ 60 := by
  have hsixty : t.secondOfDay % 60 < 60 := Nat.mod_lt _ (by decide)
  rcases Nat.lt_or_ge t.nanos nanosPerSecond with hregular | hleap
  · rw [(second_of_lt hregular).1]
    omega
  · rw [(second_of_le hleap hnanos).1]
    omega

/-- The second and the nanoseconds that are shown count the instant that is shown. -/
theorem eq_shown (hnanos : t.nanos < 2 * nanosPerSecond) :
    (⟨t.date.toDay * secondsPerDay + t.hour * 3600 + t.minute * 60 +
        (t.second - (if t.second = 60 then 1 else 0) : Nat),
      t.subsecond + (if t.second = 60 then 1 else 0) * nanosPerSecond⟩ : Instant) = t.shown := by
  have hseconds := t.seconds_eq_add
  have hsixty : ((t.secondOfDay % 60 : Nat) : Int) = t.seconds % 60 := by
    rw [secondOfDay, secondsPerDay]
    omega
  rcases Nat.lt_or_ge t.nanos nanosPerSecond with hregular | hleap
  · obtain ⟨hsecond, hsubsecond⟩ := second_of_lt hregular
    have hproper : t.Proper := fun h => absurd hregular (Nat.not_lt.mpr h)
    have hsixtieth : ¬t.second = 60 := by omega
    have hrest : t.subsecond + 0 * nanosPerSecond = t.nanos := by rw [hsubsecond]; omega
    have hshown : t.shown = t := shown_eq_iff.mpr hproper
    rw [hshown, if_neg hsixtieth, Nat.sub_zero, hsecond, hseconds, hrest]
  · obtain ⟨hsecond, hsubsecond⟩ := second_of_le hleap hnanos
    by_cases hlast : t.seconds % 60 = 59
    · have hproper : t.Proper := fun _ => hlast
      have hsixtieth : t.second = 60 := by omega
      have hcount : t.second - 1 = t.secondOfDay % 60 := by omega
      have hrest : t.subsecond + 1 * nanosPerSecond = t.nanos := by rw [hsubsecond]; omega
      have hshown : t.shown = t := shown_eq_iff.mpr hproper
      rw [hshown, if_pos hsixtieth, hcount, hseconds, hrest]
    · have hproper : ¬t.Proper := fun h => hlast (h hleap)
      have hsixtieth : ¬t.second = 60 := by omega
      have hnext : t.date.toDay * secondsPerDay + t.hour * 3600 + t.minute * 60 +
          (t.secondOfDay % 60 + 1 : Nat) = t.seconds + 1 := by
        rw [← hseconds, Nat.cast_succ, ← Int.add_assoc]
      have hrest : t.subsecond + 0 * nanosPerSecond = t.nanos - nanosPerSecond := by
        rw [hsubsecond]
        omega
      have hshown : t.shown = ⟨t.seconds + 1, t.nanos - nanosPerSecond⟩ := if_neg hproper
      rw [hshown, if_neg hsixtieth, Nat.sub_zero, hsecond, hnext, hrest]

/-- **Times.**  The instant that is shown is read back from its text. -/
theorem ofDocument?_rfc3339 (ht : t.inCalendar = true) (hnanos : t.nanos < 2 * nanosPerSecond) :
    Timestamp.ofDocument? t.rfc3339.toList = some t.shown := by
  have hhour : t.hour ≤ 23 := Nat.le_of_lt_succ t.hour_lt
  have hminute : t.minute ≤ 59 := Nat.le_of_lt_succ t.minute_lt
  have hsecond := second_le hnanos
  have hday : Date.firstDay ≤ t.day ∧ t.day ≤ Date.lastDay := by
    have hfirst : firstSecond = Date.firstDay * 86400 := rfl
    have hend : endSecond = (Date.lastDay + 1) * 86400 := rfl
    simp only [inCalendar, Bool.and_eq_true, decide_eq_true_eq] at ht
    rw [day, secondsPerDay]
    omega
  obtain ⟨hfirst, hlast⟩ := Date.year_ofDay_bounds hday.1 hday.2
  have hshown := eq_shown hnanos
  rw [Timestamp.ofDocument?, Timestamp.relaxed_rfc3339 (by omega), Option.bind_some,
    Timestamp.Fields.instant?, Timestamp.Fields.ofInstant]
  simp only [Int.sub_zero, hshown]
  exact if_pos ⟨t.date_exists, hfirst, hlast, hhour, hminute, hsecond, by decide,
    inCalendar_shown ht⟩

end Instant

end SpotForecast
