import SpotForecast.Proofs.Category.Written
import SpotForecast.Proofs.Feed.Rows
import SpotForecast.Proofs.Grid.Alone
import SpotForecast.Proofs.History.Window

/-!
# Columns and keys

A column shows the observations that have its name.  The price history is asked for those that have
a key.  This file says what the column of a key has to do with the observations of that key.

* `only_eq_of_window` compares the column with a window of the price history, as it is laid out for
  a forecast.
* `exists_keyAlone` is about observations of which no others are written like the key: their column
  goes together with the observations of the key by themselves.
* `not_alone_shadowed` shows that one observation of another key which is written like it is
  enough for the column to show something else.

`showsKey_iff` puts these together.
-/

namespace SpotForecast.Grid

open History (inWindow)

variable {observations found : List Observation} {name : String} {t start stop : Instant}
  {x : Float} {stepHours i : Nat} {key other : Category}

/-- The observations of a key. -/
def ofKey (key : Category) (observations : List Observation) : List Observation :=
  observations.filter (fun o => decide (o.category = key))

/-- What a window of the price history shows at a time before its end is the value of the column. -/
theorem isValueAt_of_window (hkey : ∀ o ∈ observations, o.name = name → o.category = key)
    (hstop : t ≤ stop) (h : IsValueAt (observations.filter (inWindow key start stop)) t name x) :
    IsValueAt observations t name x := by
  obtain ⟨o, ho, rfl⟩ := h
  refine ⟨o, ?_, rfl⟩
  rw [List.filter_comm] at ho
  obtain ⟨-, hafter, -⟩ := History.inWindow_eq_true_iff.mp (List.mem_filter.mp ho.mem).2
  refine ho.of_filter fun b hb hout => ?_
  obtain ⟨hb, hclass⟩ := List.mem_filter.mp hb
  simp only [Bool.and_eq_true, decide_eq_true_eq] at hclass
  -- what has the name and lies outside the window comes before its start
  have hbefore : ¬start ≤ b.time := by
    intro hin
    have hwindow := History.inWindow_eq_true_iff.mpr
      ⟨hkey b hb hclass.1, hin, le_trans hclass.2 hstop⟩
    rw [hwindow] at hout
    cases hout
  exact lt_of_lt_of_le (not_le.mp hbefore) hafter

/-- A column goes together with the observations of its key by themselves, and also with what is
fetched of them for a forecast. -/
structure KeyAlone (stepHours : Nat) (observations : List Observation) (key : Category)
    (g h : Grid) (i : Nat) (primed last : Instant) : Prop extends
    Alone stepHours observations (ofKey key observations) key.canonical g h i primed last where
  /-- Rows of one time do not differ either if only a window of the history is laid out. -/
  window : ∀ text asOf days found f, Category.parse? text = some key →
    History.fetch observations asOf text days = .ok found →
    ofObservations stepHours found = .ok f →
      ∀ r ∈ g.rows, ∀ s ∈ f.rows, r.time = s.time → r.only i = s

/-- Rows of a window of the history are those of the grid of all observations at the same time. -/
theorem only_eq_of_window {g f : Grid} {text : String} {asOf : Instant} {days : Nat}
    (hg : LaidOut stepHours observations g) (hi : g.columns[i]? = some key.canonical)
    (hkey : Category.parse? text = some key)
    (hone : ∀ o ∈ observations, o.name = key.canonical → o.category = key)
    (hfetch : History.fetch observations asOf text days = .ok found)
    (hf : ofObservations stepHours found = .ok f) {r s : Row} (hr : r ∈ g.rows) (hs : s ∈ f.rows)
    (htime : r.time = s.time) : r.only i = s := by
  have hlaid := laidOut_of_ofObservations hf
  obtain ⟨-, hne, -, rfl⟩ := ofObservations_eq_ok_iff.mp hf
  cases hstart : asOf.daysBefore? days with
  | none =>
      rw [History.fetch_of_tooEarly hkey hstart] at hfetch
      cases hfetch
  | some start =>
      rw [History.fetch_of_key hkey hstart] at hfetch
      obtain rfl := Except.ok.inj hfetch
      have hnames : ∀ o ∈ observations.filter (inWindow key start asOf),
          o.name = key.canonical := by
        intro o ho
        obtain ⟨rfl, -, -⟩ := History.inWindow_eq_true_iff.mp (List.mem_filter.mp ho).2
        rfl
      refine hg.only_eq hi hlaid (columnsOf_eq_singleton hne hnames) hr hs htime fun x hx => ?_
      -- a row lies before some observation of the window, and so before its end
      obtain ⟨-, -, last, -, -, hlast, -, -, hlt⟩ := (hlaid.mem_times s.time).mp ⟨s, hs, rfl⟩
      obtain ⟨o, ho, hbefore⟩ := (lt_max?_iff hlast).mp hlt
      obtain ⟨-, -, hstop⟩ := History.inWindow_eq_true_iff.mp (List.mem_filter.mp ho).2
      exact isValueAt_of_window hone (le_of_lt (lt_of_lt_of_le hbefore hstop)) hx

/-- If no other key is written like it, the observations of a key are those of its column. -/
theorem ofKey_eq_named (hone : ∀ o ∈ observations, o.name = key.canonical → o.category = key) :
    ofKey key observations = named key.canonical observations := by
  refine List.filter_congr fun o ho => decide_eq_decide.mpr ⟨?_, hone o ho⟩
  rintro rfl
  rfl

theorem Alone.getElem?_columns {own : List Observation} {g h : Grid} {primed last : Instant}
    (halone : Alone stepHours observations own name g h i primed last)
    (hname : ∃ o ∈ observations, o.name = name) : g.columns[i]? = some name := by
  have hmem : name ∈ g.columns := (mem_columns_ofObservations halone.all).mpr hname
  obtain ⟨j, hcolumn, hj⟩ := exists_requireColumn hmem
  obtain rfl := Except.ok.inj (hcolumn.symm.trans halone.column)
  exact hj

/-- **The column of a key.**  If no other key of the observations is written like it, the column of
a key goes together with the observations of the key. -/
theorem exists_keyAlone (hday : stepHours ∣ 24) (hkey : ∃ o ∈ observations, o.category = key)
    (hone : ∀ o ∈ observations, o.name = key.canonical → o.category = key)
    (hcalendar : StaysInCalendar stepHours observations) :
    ∃ g h i primed last, KeyAlone stepHours observations key g h i primed last := by
  have hname : ∃ o ∈ observations, o.name = key.canonical := by
    obtain ⟨o, ho, rfl⟩ := hkey
    exact ⟨o, ho, rfl⟩
  obtain ⟨g, h, i, primed, last, halone⟩ := exists_alone_named hday hname hcalendar
  rw [← ofKey_eq_named hone] at halone
  refine ⟨g, h, i, primed, last, halone, ?_⟩
  intro text asOf days found f htext hfetch hf r hr s hs htime
  exact only_eq_of_window (laidOut_of_ofObservations halone.all)
    (halone.getElem?_columns hname) htext hone hfetch hf hr hs htime

/-! ### Keys that are written alike -/

/-- Two observations of a key, a day apart, and one of another key at the time of the first. -/
def shadowed (key other : Category) : List Observation :=
  [⟨⟨0, 0⟩, 1.0, key⟩, ⟨⟨0, 0⟩, 2.0, other⟩, ⟨⟨86400, 0⟩, 1.0, key⟩]

theorem staysInCalendar_shadowed (hday : stepHours ∣ 24) :
    StaysInCalendar stepHours (shadowed key other) := by
  intro first last hfirst hlast k hk
  obtain rfl : ⟨0, 0⟩ = first := Option.some.inj hfirst
  obtain rfl : ⟨86400, 0⟩ = last := Option.some.inj hlast
  have hstep : stepHours ≤ 24 := Nat.le_of_dvd (by decide) hday
  have hstart : (⟨0, 0⟩ : Instant).midnight = 0 := by decide
  simp only [Instant.lt_def, Instant.ofSeconds, hstart] at hk ⊢
  have hone : stepHours * secondsPerHour ≤ 86400 := Nat.mul_le_mul_right secondsPerHour hstep
  have hend : 2 * 86400 < Instant.endSecond := by decide
  rw [Int.natCast_succ, Int.add_mul]
  omega

/-- Without the other key, the key has its own price at the start of the first day. -/
theorem isValueAt_ofKey_shadowed (hdistinct : other ≠ key) :
    IsValueAt (ofKey key (shadowed key other)) ⟨0, 0⟩ key.canonical 1.0 := by
  refine ⟨⟨⟨0, 0⟩, 1.0, key⟩, ⟨[], [], ?_, by simp, by simp⟩, rfl⟩
  simp [ofKey, shadowed, hdistinct, Observation.name, Instant.le_def]

theorem isValueAt_shadowed (hname : other.canonical = key.canonical) :
    IsValueAt (shadowed key other) ⟨0, 0⟩ key.canonical 2.0 := by
  refine ⟨⟨⟨0, 0⟩, 2.0, other⟩, ⟨[⟨⟨0, 0⟩, 1.0, key⟩], [], ?_, by simp, by simp⟩, rfl⟩
  simp [shadowed, hname, Observation.name, Instant.le_def]

theorem ofKey_shadowed (hdistinct : other ≠ key) :
    ofKey key (shadowed key other) = [⟨⟨0, 0⟩, 1.0, key⟩, ⟨⟨86400, 0⟩, 1.0, key⟩] := by
  simp [ofKey, shadowed, hdistinct]

/-- The observations of the key by themselves have a row at the start of the first day. -/
theorem exists_row_ofKey_shadowed {h : Grid} (hdistinct : other ≠ key)
    (hh : ofObservations stepHours (ofKey key (shadowed key other)) = .ok h) :
    ∃ s ∈ h.rows, s.time = ⟨0, 0⟩ := by
  rw [ofKey_shadowed hdistinct] at hh
  have hlaid := laidOut_of_ofObservations hh
  have hfirst : ([⟨⟨0, 0⟩, 1.0, key⟩, ⟨⟨86400, 0⟩, 1.0, key⟩].map Observation.time).min? =
      some ⟨0, 0⟩ := rfl
  have hlast : ([⟨⟨0, 0⟩, 1.0, key⟩, ⟨⟨86400, 0⟩, 1.0, key⟩].map Observation.time).max? =
      some ⟨86400, 0⟩ := rfl
  have hnames : ∀ o ∈ [(⟨⟨0, 0⟩, 1.0, key⟩ : Observation), ⟨⟨86400, 0⟩, 1.0, key⟩],
      o.name = key.canonical := by simp [Observation.name]
  have hstart := max?_firstTime?_of_name (List.cons_ne_nil _ _) hnames hfirst
  have hpoint : (⟨0, 0⟩ : Instant) = Instant.ofSeconds
      ((⟨0, 0⟩ : Instant).midnight + (0 : Nat) * (stepHours * secondsPerHour : Nat)) := by
    rw [Int.natCast_zero, Int.zero_mul]
    rfl
  have hbefore : (⟨0, 0⟩ : Instant) < ⟨86400, 0⟩ := by decide
  rw [hlaid.mem_times, columns_eq_of_ofObservations hh]
  exact (isRowTime_iff_of_bounds hfirst hstart hlast).mpr ⟨⟨0, hpoint⟩, le_refl _, hbefore⟩

/-- **Another key that is written alike.**  A single observation of it can make the column of a key
differ from what the observations of the key have by themselves. -/
theorem not_alone_shadowed (hdistinct : other ≠ key) (hname : other.canonical = key.canonical) :
    ¬∃ g h i primed last, Alone stepHours (shadowed key other) (ofKey key (shadowed key other))
      key.canonical g h i primed last := by
  rintro ⟨g, h, i, primed, last, halone⟩
  have hg := laidOut_of_ofObservations halone.all
  have hh := laidOut_of_ofObservations halone.alone
  have hne : shadowed key other ≠ [] := List.cons_ne_nil _ _
  have hnames : ∀ o ∈ shadowed key other, o.name = key.canonical := by
    simp [shadowed, Observation.name, hname]
  have hi := halone.getElem?_columns ⟨_, List.mem_cons_self, rfl⟩
  -- both grids have a row at the start of the first day
  obtain ⟨s, hs, hstime⟩ := exists_row_ofKey_shadowed hdistinct halone.alone
  have hprimed : primed ≤ s.time := by
    have hfirst : ((shadowed key other).map Observation.time).min? = some ⟨0, 0⟩ := rfl
    have hstart := halone.primed_eq
    rw [columns_eq_of_ofObservations halone.all,
      max?_firstTime?_of_name hne hnames hfirst] at hstart
    rw [← Option.some.inj hstart, hstime]
  have hrow : s ∈ h.rows.filter (fun r => decide (primed ≤ r.time)) :=
    List.mem_filter.mpr ⟨hs, decide_eq_true hprimed⟩
  rw [← halone.rows] at hrow
  obtain ⟨r, hr, rfl⟩ := List.mem_map.mp hrow
  -- one has the price of the other key there, the other that of the key
  obtain ⟨x, hx, hrx⟩ := hg.exists_value hi (List.mem_filter.mp hr).1
  obtain ⟨y, hy, hsy⟩ := hh.exists_eq_single halone.one_column hs
  rw [hstime] at hsy
  change r.time = _ at hstime
  rw [hstime] at hrx
  have hxy : [x] = [y] := by simpa [Row.only, hx] using congrArg Row.values hy
  rw [hrx.unique (isValueAt_shadowed hname),
    hsy.unique (isValueAt_ofKey_shadowed hdistinct)] at hxy
  exact absurd hxy (by decide)

/-- A feed with two keys that are written alike. -/
def shadowedFeed : String :=
  "0\t1.0\t1970-01-01T00:00:00Z\ta\t_b\tc\n0\t2.0\t1970-01-01T00:00:00Z\ta_\tb\tc\n" ++
    "0\t1.0\t1970-01-02T00:00:00Z\ta\t_b\tc\n"

/-- The key that the name of the column denotes, and the other one. -/
def shadowedKey : Category := ⟨"a", "_b", "c"⟩

def shadowingKey : Category := ⟨"a_", "b", "c"⟩

theorem canonical_shadowingKey : shadowingKey.canonical = shadowedKey.canonical := by
  decide +kernel

/-- A feed where the column of a key has the price of another key, while the observations of the
key have their own, by themselves and as they are fetched for a forecast. -/
theorem not_alone_shadowedFeed :
    ∃ observations found, Feed.parse shadowedFeed = .ok observations ∧
      (∃ o ∈ observations, o.category = shadowedKey) ∧ StaysInCalendar 24 observations ∧
      History.fetch observations ⟨86400, 0⟩ "a___b__c" 8 = .ok found ∧
      ofObservations 24 observations = .ok ⟨["a___b__c"], 24, [⟨⟨0, 0⟩, [2.0]⟩]⟩ ∧
      ofObservations 24 (ofKey shadowedKey observations) =
        .ok ⟨["a___b__c"], 24, [⟨⟨0, 0⟩, [1.0]⟩]⟩ ∧
      ofObservations 24 found = .ok ⟨["a___b__c"], 24, [⟨⟨0, 0⟩, [1.0]⟩]⟩ ∧
      ¬∃ g h i primed last, Alone 24 observations (ofKey shadowedKey observations)
        shadowedKey.canonical g h i primed last := by
  have hparse : Feed.parse shadowedFeed = .ok (shadowed shadowedKey shadowingKey) :=
    (Feed.parse_eq_ofLines String.ofList_append.symm).trans rfl
  have hfetch : History.fetch (shadowed shadowedKey shadowingKey) ⟨86400, 0⟩ "a___b__c" 8 =
      .ok (ofKey shadowedKey (shadowed shadowedKey shadowingKey)) := by decide +kernel
  have hcalendar : StaysInCalendar 24 (shadowed shadowedKey shadowingKey) :=
    staysInCalendar_shadowed (Nat.dvd_refl 24)
  have hdistinct : shadowingKey ≠ shadowedKey := by decide
  refine ⟨_, _, hparse, ⟨_, List.mem_cons_self, rfl⟩, hcalendar, hfetch, ?all, ?alone, ?alone,
    not_alone_shadowed hdistinct canonical_shadowingKey⟩
  case all =>
    have hsorted : inOrder (shadowed shadowedKey shadowingKey) =
        shadowed shadowedKey shadowingKey := List.mergeSort_of_pairwise (by decide)
    have hne : shadowed shadowedKey shadowingKey ≠ [] := List.cons_ne_nil _ _
    rw [ofObservations_eq_ok (by decide) hne hcalendar, gridRows, hsorted]
    decide +kernel
  case alone =>
    have hsorted : inOrder (ofKey shadowedKey (shadowed shadowedKey shadowingKey)) =
        ofKey shadowedKey (shadowed shadowedKey shadowingKey) :=
      List.mergeSort_of_pairwise (by decide)
    have hinside : StaysInCalendar 24 (ofKey shadowedKey (shadowed shadowedKey shadowingKey)) :=
      (fits_iff (by decide) (by decide)).mp (by decide)
    rw [ofObservations_eq_ok (by decide) (by decide) hinside, gridRows, hsorted]
    decide +kernel

/-! ### Which keys have a column of their own -/

/-- In all observations of certain keys, the column of a key goes together with the observations of
that key by themselves. -/
def ShowsKey (stepHours : Nat) (keys : Set Category) (key : Category) : Prop :=
  ∀ observations, (∀ o ∈ observations, o.category ∈ keys) →
    (∃ o ∈ observations, o.category = key) → StaysInCalendar stepHours observations →
      ∃ g h i primed last, KeyAlone stepHours observations key g h i primed last

/-- **The column of a key.**  With a step that divides a day, every column goes together with the
observations of its name by themselves; with those of a key it does so, whatever the observations,
exactly if no other of their keys is written like it. -/
theorem showsKey_iff (hday : stepHours ∣ 24) :
    (∀ observations name, (∃ o ∈ observations, o.name = name) →
      StaysInCalendar stepHours observations → ∃ g h i primed last,
        Alone stepHours observations (named name observations) name g h i primed last) ∧
    ∀ keys : Set Category, ∀ key ∈ keys, ShowsKey stepHours keys key ↔
      ∀ other ∈ keys, other.canonical = key.canonical → other = key := by
  refine ⟨fun _ _ hname hcalendar => exists_alone_named hday hname hcalendar,
    fun keys key hkey => ⟨?_, ?_⟩⟩
  · intro hshows other hother hname
    by_contra hdistinct
    have hkeys : ∀ o ∈ shadowed key other, o.category ∈ keys := by
      simp [shadowed, hkey, hother]
    obtain ⟨g, h, i, primed, last, halone⟩ := hshows (shadowed key other) hkeys
      ⟨_, List.mem_cons_self, rfl⟩ (staysInCalendar_shadowed hday)
    exact not_alone_shadowed hdistinct hname ⟨g, h, i, primed, last, halone.toAlone⟩
  · intro honly observations hkeys hoccurs hcalendar
    exact exists_keyAlone hday hoccurs (fun o ho => honly o.category (hkeys o ho)) hcalendar

/-- With a grid of six hours, a key that is written like another one has a column of its own if it
is the only key, but not beside the other. -/
theorem showsKey_iff_shadowedKey :
    6 ∣ 24 ∧ ShowsKey 6 {shadowedKey} shadowedKey ∧
      ¬ShowsKey 6 {shadowedKey, shadowingKey} shadowedKey := by
  have hday : 6 ∣ 24 := by decide
  have hdistinct : shadowingKey ≠ shadowedKey := by decide
  obtain ⟨-, hkeys⟩ := showsKey_iff hday
  refine ⟨hday, ?_, fun hshows => ?_⟩
  · exact (hkeys {shadowedKey} shadowedKey rfl).mpr fun other hother _ => hother
  · exact hdistinct ((hkeys {shadowedKey, shadowingKey} shadowedKey (Or.inl rfl)).mp hshows
      shadowingKey (Or.inr rfl) canonical_shadowingKey)

end SpotForecast.Grid
