import SpotForecast.Proofs.Grid.Sweep
import SpotForecast.Proofs.Text.Bytes

/-!
# What the grid of observations is

`LaidOut` describes a grid by its columns, the times of its rows and its values, without a sweep,
a cursor or a sorted list.  The observations may come in any order and from any time, and their
prices may be any values.

* `laidOut_ofRows` shows that the rows left behind by the sweep are laid out in this way.
* `LaidOut.unique` shows that only one grid is.
* `fits_iff` says when the sweep stays within the calendar, again without the sweep.
* `ofObservations_laidOut` puts these together: the grid of observations is the one that is laid
  out like this.
-/

namespace SpotForecast.Grid

/-- The time of the earliest observation of a column. -/
def firstTime? (observations : List Observation) (name : String) : Option Instant :=
  ((observations.filter (fun o => decide (o.name = name))).map Observation.time).min?

/-- A time is a time of a row: a whole number of steps after midnight of the day of the earliest
observation, not before the first observation of the column that starts last, and before the last
observation of all. -/
def IsRowTime (stepHours : Nat) (columns : List String) (observations : List Observation)
    (t : Instant) : Prop :=
  ∃ first primed last, (observations.map Observation.time).min? = some first ∧
    (columns.filterMap (firstTime? observations)).max? = some primed ∧
    (observations.map Observation.time).max? = some last ∧
    (∃ k : Nat, t = Instant.ofSeconds (first.midnight + k * (stepHours * secondsPerHour : Nat))) ∧
    primed ≤ t ∧ t < last

/-- The value of a column at a time is the price of the latest of its observations up to then. -/
def IsValueAt (observations : List Observation) (t : Instant) (name : String) (x : Float) : Prop :=
  ∃ o, LatestOf o (observations.filter (fun o => decide (o.name = name) && decide (o.time ≤ t))) ∧
    o.price = x

/-- How a grid shows observations. -/
structure LaidOut (stepHours : Nat) (observations : List Observation) (g : Grid) : Prop where
  step : g.stepHours = stepHours
  /-- The columns ascend in the order of their bytes, so none is there twice. -/
  columns_ascending : g.columns.Pairwise (fun a b => Text.utf8 a < Text.utf8 b)
  mem_columns : ∀ name, name ∈ g.columns ↔ ∃ o ∈ observations, o.name = name
  rows_ascending : g.rows.Pairwise (fun r s => r.time < s.time)
  /-- There is a row at every row time and at no other. -/
  mem_times : ∀ t, (∃ r ∈ g.rows, r.time = t) ↔ IsRowTime stepHours g.columns observations t
  values : ∀ r ∈ g.rows, List.Forall₂ (IsValueAt observations r.time) g.columns r.values

/-- Wherever a grid point lies before the last observation, the next one lies within the
calendar. -/
def StaysInCalendar (stepHours : Nat) (observations : List Observation) : Prop :=
  ∀ first last, (observations.map Observation.time).min? = some first →
    (observations.map Observation.time).max? = some last →
    ∀ k : Nat,
      Instant.ofSeconds (first.midnight + k * (stepHours * secondsPerHour : Nat)) < last →
      first.midnight + (k + 1 : Nat) * (stepHours * secondsPerHour : Nat) < Instant.endSecond

/-- The last price of a column up to a grid point is the value of the column there. -/
theorem lastPrice_upTo_eq_some_iff {observations : List Observation} {second : Int} {name : String}
    {x : Float} :
    lastPrice (upTo second (inOrder observations)) name = some x ↔
      IsValueAt observations (Instant.ofSeconds second) name x := by
  rw [lastPrice, upTo, List.filter_filter, filter_inOrder, Option.map_eq_some_iff]
  simp only [getLast?_inOrder_eq_some_iff]
  rfl

/-- A column has one value at a time. -/
theorem IsValueAt.unique {observations : List Observation} {t : Instant} {name : String}
    {x y : Float} (hx : IsValueAt observations t name x) (hy : IsValueAt observations t name y) :
    x = y := by
  obtain ⟨o, ho, rfl⟩ := hx
  obtain ⟨o', ho', rfl⟩ := hy
  rw [ho.unique ho']

/-- A column has a value at a grid point exactly if it was observed up to there. -/
theorem exists_lastPrice_upTo_iff {observations : List Observation} {second : Int}
    {name : String} :
    (∃ x, lastPrice (upTo second (inOrder observations)) name = some x) ↔
      ∃ o ∈ observations, o.name = name ∧ o.time ≤ Instant.ofSeconds second := by
  have hsome : (lastPrice (upTo second (inOrder observations)) name).isSome = true ↔
      (upTo second (inOrder observations)).filter (fun o => o.name = name) ≠ [] := by
    rw [lastPrice, Option.isSome_map, List.getLast?_isSome]
  rw [← Option.isSome_iff_exists, hsome, ne_eq, List.filter_eq_nil_iff]
  simp only [upTo, List.mem_filter, mem_inOrder, decide_eq_true_eq]
  push Not
  grind

/-- A column starts with one of its observations. -/
theorem exists_firstTime? {observations : List Observation} {name : String}
    (hname : name ∈ columnsOf observations) :
    ∃ o ∈ observations, o.name = name ∧ firstTime? observations name = some o.time := by
  obtain ⟨o, ho, hon⟩ := mem_columnsOf.mp hname
  have hne : (observations.filter (fun o => decide (o.name = name))).map Observation.time ≠ [] := by
    intro hnil
    rw [List.map_eq_nil_iff, List.filter_eq_nil_iff] at hnil
    exact hnil o ho (by simpa using hon)
  obtain ⟨first, hfirst⟩ := Option.isSome_iff_exists.mp (List.isSome_min?_of_ne_nil hne)
  obtain ⟨o', ho', rfl⟩ := List.mem_map.mp (List.min?_eq_some_iff.mp hfirst).1
  obtain ⟨hmem, hname'⟩ := List.mem_filter.mp ho'
  exact ⟨o', hmem, by simpa using hname', hfirst⟩

/-- The columns have been seen up to a grid point exactly if the one that starts last has. -/
theorem forall_columns_seen_iff {observations : List Observation} {t : Instant} :
    (∀ name ∈ columnsOf observations, ∃ o ∈ observations, o.name = name ∧ o.time ≤ t) ↔
      ∀ primed ∈ (columnsOf observations).filterMap (firstTime? observations), primed ≤ t := by
  constructor
  · intro h primed hprimed
    obtain ⟨name, hname, hfirst⟩ := List.mem_filterMap.mp hprimed
    obtain ⟨o, ho, hon, hot⟩ := h name hname
    have hleast := (List.min?_eq_some_iff.mp hfirst).2 o.time
      (List.mem_map_of_mem (List.mem_filter.mpr ⟨ho, by simpa using hon⟩))
    exact le_trans hleast hot
  · intro h name hname
    obtain ⟨o, ho, hon, hfirst⟩ := exists_firstTime? hname
    exact ⟨o, ho, hon, h _ (List.mem_filterMap.mpr ⟨name, hname, hfirst⟩)⟩

/-- Where there are observations, some column starts last. -/
theorem exists_primed {observations : List Observation} (hne : observations ≠ []) :
    ∃ primed,
      ((columnsOf observations).filterMap (firstTime? observations)).max? = some primed := by
  obtain ⟨o, ho⟩ := List.exists_mem_of_ne_nil _ hne
  have hcolumn : o.name ∈ columnsOf observations := mem_columnsOf.mpr ⟨o, ho, rfl⟩
  obtain ⟨o', -, -, hstart⟩ := exists_firstTime? hcolumn
  have hstarted : (columnsOf observations).filterMap (firstTime? observations) ≠ [] :=
    List.ne_nil_of_mem (List.mem_filterMap.mpr ⟨o.name, hcolumn, hstart⟩)
  exact Option.isSome_iff_exists.mp (List.isSome_max?_of_ne_nil hstarted)

/-- A row is made at a grid point exactly with the values of all columns there. -/
theorem rowOf?_eq_some_iff {columns : List String} {observations : List Observation}
    {second : Int} {r : Row} :
    rowOf? columns second (upTo second (inOrder observations)) = some r ↔
      r.time = Instant.ofSeconds second ∧
        List.Forall₂ (IsValueAt observations r.time) columns r.values := by
  rw [rowOf?, Option.map_eq_some_iff]
  simp only [mapM_eq_some_iff, lastPrice_upTo_eq_some_iff]
  constructor
  · rintro ⟨values, hvalues, rfl⟩
    exact ⟨rfl, hvalues⟩
  · rintro ⟨htime, hvalues⟩
    refine ⟨r.values, htime ▸ hvalues, ?_⟩
    rw [← htime]

/-- A row is made at a grid point exactly if all columns have been seen up to there. -/
theorem exists_rowOf?_iff {observations : List Observation} {second : Int} :
    (∃ r, rowOf? (columnsOf observations) second (upTo second (inOrder observations)) = some r) ↔
      ∀ name ∈ columnsOf observations,
        ∃ o ∈ observations, o.name = name ∧ o.time ≤ Instant.ofSeconds second := by
  simp only [← exists_lastPrice_upTo_iff, ← exists_mapM_iff, rowOf?, Option.map_eq_some_iff]
  constructor
  · rintro ⟨r, values, hvalues, -⟩
    exact ⟨values, hvalues⟩
  · rintro ⟨values, hvalues⟩
    exact ⟨_, values, hvalues, rfl⟩

/-- A list that is not empty has a least and a greatest time. -/
theorem exists_time_bounds {observations : List Observation} (hne : observations ≠ []) :
    ∃ first last, (observations.map Observation.time).min? = some first ∧
      (observations.map Observation.time).max? = some last := by
  have htimes : observations.map Observation.time ≠ [] := by simpa using hne
  obtain ⟨first, hfirst⟩ := Option.isSome_iff_exists.mp (List.isSome_min?_of_ne_nil htimes)
  obtain ⟨last, hlast⟩ := Option.isSome_iff_exists.mp (List.isSome_max?_of_ne_nil htimes)
  exact ⟨first, last, hfirst, hlast⟩

/-- Something is before the last observation exactly if it is before some observation. -/
theorem lt_max?_iff {observations : List Observation} {last t : Instant}
    (hlast : (observations.map Observation.time).max? = some last) :
    t < last ↔ ∃ o ∈ observations, t < o.time := by
  obtain ⟨hmem, hgreatest⟩ := List.max?_eq_some_iff.mp hlast
  constructor
  · intro h
    obtain ⟨o, ho, rfl⟩ := List.mem_map.mp hmem
    exact ⟨o, ho, h⟩
  · rintro ⟨o, ho, h⟩
    exact lt_of_lt_of_le h (hgreatest _ (List.mem_map_of_mem ho))

/-- The grid point with a number is passed exactly if it lies before some observation. -/
theorem lt_gridCount_iff {stepHours : Nat} (hstep : 0 < stepHours)
    {observations : List Observation} {k : Nat} :
    k < gridCount stepHours observations ↔ ∃ o ∈ observations,
      Instant.ofSeconds (gridStart observations + k * (stepHours * secondsPerHour : Nat)) <
        o.time :=
  lt_passedCount_iff (Nat.mul_pos hstep (by decide))

/-- A sweep stays within the calendar if the point after each passed one does. -/
theorem staysInCalendar_iff {stepHours : Nat} (hstep : 0 < stepHours)
    {observations : List Observation} (hne : observations ≠ []) :
    StaysInCalendar stepHours observations ↔ ∀ k < gridCount stepHours observations,
      gridStart observations + (k + 1 : Nat) * (stepHours * secondsPerHour : Nat) <
        Instant.endSecond := by
  obtain ⟨first, last, hfirst, hlast⟩ := exists_time_bounds hne
  have hstart : gridStart observations = first.midnight := by rw [gridStart, hfirst]
  have hpassed : ∀ k : Nat, k < gridCount stepHours observations ↔
      Instant.ofSeconds (first.midnight + k * (stepHours * secondsPerHour : Nat)) < last := by
    intro k
    rw [lt_gridCount_iff hstep, hstart, lt_max?_iff hlast]
  rw [hstart]
  constructor
  · intro h k hk
    exact h first last hfirst hlast k ((hpassed k).mp hk)
  · intro h first' last' hfirst' hlast' k hk
    obtain rfl : first = first' := Option.some.inj (hfirst.symm.trans hfirst')
    obtain rfl : last = last' := Option.some.inj (hlast.symm.trans hlast')
    exact h k ((hpassed k).mpr hk)

/-- **The calendar.**  A sweep fits exactly if no grid point before the last observation is
followed by one past the end of the calendar. -/
theorem fits_iff {stepHours : Nat} (hstep : 0 < stepHours) {observations : List Observation}
    (hne : observations ≠ []) :
    Fits stepHours observations ↔ StaysInCalendar stepHours observations := by
  rw [Fits, gridEnd, staysInCalendar_iff hstep hne]
  constructor
  · intro hfits k hk
    have hmul : ((k + 1 : Nat) : Int) * (stepHours * secondsPerHour : Nat) ≤
        gridCount stepHours observations * (stepHours * secondsPerHour : Nat) :=
      Int.mul_le_mul_of_nonneg_right (by omega) (by omega)
    rcases hfits with hzero | hend
    · omega
    · omega
  · intro hcalendar
    cases hcount : gridCount stepHours observations with
    | zero => exact Or.inl rfl
    | succ k => exact Or.inr (hcalendar k (by omega))

/-- The row times are the passed grid points up to which all columns have been seen. -/
theorem isRowTime_iff {stepHours : Nat} (hstep : 0 < stepHours) {observations : List Observation}
    (hne : observations ≠ []) {t : Instant} :
    IsRowTime stepHours (columnsOf observations) observations t ↔
      ∃ k : Nat, k < gridCount stepHours observations ∧
        t = Instant.ofSeconds
          (gridStart observations + k * (stepHours * secondsPerHour : Nat)) ∧
        ∀ name ∈ columnsOf observations, ∃ o ∈ observations, o.name = name ∧ o.time ≤ t := by
  obtain ⟨first, last, hfirst, hlast⟩ := exists_time_bounds hne
  have hstart : gridStart observations = first.midnight := by rw [gridStart, hfirst]
  rw [IsRowTime, forall_columns_seen_iff, hstart]
  constructor
  · rintro ⟨first', primed, last', hfirst', hprimed, hlast', ⟨k, rfl⟩, hle, hlt⟩
    obtain rfl : first = first' := Option.some.inj (hfirst.symm.trans hfirst')
    obtain rfl : last = last' := Option.some.inj (hlast.symm.trans hlast')
    refine ⟨k, ?_, rfl, ?_⟩
    · rw [lt_gridCount_iff hstep, hstart, ← lt_max?_iff hlast]
      exact hlt
    · intro time htime
      exact le_trans ((List.max?_eq_some_iff.mp hprimed).2 time htime) hle
  · rintro ⟨k, hk, rfl, hseen⟩
    rw [lt_gridCount_iff hstep, hstart, ← lt_max?_iff hlast] at hk
    obtain ⟨primed, hprimed⟩ := exists_primed hne
    exact ⟨first, primed, last, hfirst, hprimed, hlast, ⟨k, rfl⟩,
      hseen primed (List.max?_eq_some_iff.mp hprimed).1, hk⟩

/-- The rows of the grid are those made at passed grid points. -/
theorem mem_gridRows_iff {stepHours : Nat} {observations : List Observation} {r : Row} :
    r ∈ gridRows stepHours observations ↔
      (∃ k : Nat, k < gridCount stepHours observations ∧
        r.time = Instant.ofSeconds
          (gridStart observations + k * (stepHours * secondsPerHour : Nat))) ∧
        List.Forall₂ (IsValueAt observations r.time) (columnsOf observations) r.values := by
  rw [gridRows, List.mem_filterMap]
  simp only [rowOf?_eq_some_iff, mem_points]
  constructor
  · rintro ⟨second, ⟨k, hk, rfl⟩, htime, hvalues⟩
    exact ⟨⟨k, hk, htime⟩, hvalues⟩
  · rintro ⟨⟨k, hk, htime⟩, hvalues⟩
    exact ⟨_, ⟨k, hk, rfl⟩, htime, hvalues⟩

/-- The rows of the grid ascend. -/
theorem gridRows_pairwise {stepHours : Nat} (hstep : 0 < stepHours)
    (observations : List Observation) :
    (gridRows stepHours observations).Pairwise (fun r s => r.time < s.time) := by
  have hpoints := points_pairwise (Nat.mul_pos hstep (by decide : 0 < secondsPerHour))
    (gridStart observations) (gridCount stepHours observations)
  refine hpoints.filterMap _ ?_
  intro a b hab r hr s hs
  rw [(rowOf?_eq_some_iff.mp hr).1, (rowOf?_eq_some_iff.mp hs).1]
  exact Instant.ofSeconds_lt_ofSeconds.mpr hab

/-- **The rows of the sweep** are laid out as they should. -/
theorem laidOut_ofRows {stepHours : Nat} (hstep : 0 < stepHours) {observations : List Observation}
    (hne : observations ≠ []) :
    LaidOut stepHours observations
      ⟨columnsOf observations, stepHours, gridRows stepHours observations⟩ where
  step := rfl
  columns_ascending := (columnsOf_pairwise observations).imp Text.utf8_lt_iff.mpr
  mem_columns _ := mem_columnsOf
  rows_ascending := gridRows_pairwise hstep observations
  mem_times t := by
    rw [isRowTime_iff hstep hne]
    constructor
    · rintro ⟨r, hr, rfl⟩
      obtain ⟨⟨k, hk, htime⟩, hvalues⟩ := mem_gridRows_iff.mp hr
      refine ⟨k, hk, htime, ?_⟩
      rw [htime]
      exact exists_rowOf?_iff.mp ⟨r, rowOf?_eq_some_iff.mpr ⟨htime, hvalues⟩⟩
    · rintro ⟨k, hk, rfl, hseen⟩
      obtain ⟨r, hr⟩ := exists_rowOf?_iff.mpr hseen
      obtain ⟨htime, hvalues⟩ := rowOf?_eq_some_iff.mp hr
      exact ⟨r, mem_gridRows_iff.mpr ⟨⟨k, hk, htime⟩, hvalues⟩, htime⟩
  values r hr := (mem_gridRows_iff.mp hr).2

/-- Rows with the same times are the same if rows of one time are. -/
theorem rows_eq_of_times {rows rows' : List Row}
    (htimes : rows.map Row.time = rows'.map Row.time)
    (heq : ∀ r ∈ rows, ∀ r' ∈ rows', r.time = r'.time → r = r') : rows = rows' := by
  induction rows generalizing rows' with
  | nil => exact (List.map_eq_nil_iff.mp htimes.symm).symm
  | cons r rest ih =>
      cases rows' with
      | nil => simp at htimes
      | cons r' rest' =>
          obtain ⟨htime, hrest⟩ := List.cons.inj htimes
          rw [heq r List.mem_cons_self r' List.mem_cons_self htime,
            ih hrest (fun s hs s' hs' =>
              heq s (List.mem_cons_of_mem _ hs) s' (List.mem_cons_of_mem _ hs'))]

/-- **Uniqueness.**  Only one grid is laid out for observations and a step. -/
theorem LaidOut.unique {stepHours : Nat} {observations : List Observation} {g g' : Grid}
    (h : LaidOut stepHours observations g) (h' : LaidOut stepHours observations g') : g = g' := by
  have hcolumns : g.columns = g'.columns := by
    apply List.Pairwise.eq_of_mem_iff (h.columns_ascending.imp Text.utf8_lt_iff.mp)
      (h'.columns_ascending.imp Text.utf8_lt_iff.mp)
    intro name
    rw [h.mem_columns, h'.mem_columns]
  have htimes : g.rows.map Row.time = g'.rows.map Row.time := by
    apply List.Pairwise.eq_of_mem_iff (r := (· < ·)) (List.pairwise_map.mpr h.rows_ascending)
      (List.pairwise_map.mpr h'.rows_ascending)
    intro t
    rw [List.mem_map, List.mem_map, h.mem_times, h'.mem_times, hcolumns]
  have hrows : g.rows = g'.rows := by
    apply rows_eq_of_times htimes
    intro r hr r' hr' htime
    have hvalues := h.values r hr
    rw [hcolumns, htime] at hvalues
    have hunique : Relator.RightUnique (IsValueAt observations r'.time) :=
      fun _ _ _ hx hy => hx.unique hy
    have heq := List.right_unique_forall₂' hunique hvalues (h'.values r' hr')
    obtain ⟨t, values⟩ := r
    obtain ⟨t', values'⟩ := r'
    simp only at htime heq
    rw [htime, heq]
  obtain ⟨columns, step, rows⟩ := g
  obtain ⟨columns', step', rows'⟩ := g'
  obtain rfl : step = stepHours := h.step
  obtain rfl : step' = step := h'.step
  simp only at hcolumns hrows
  rw [hcolumns, hrows]

/-- A sweep that stays within the calendar gives a grid. -/
theorem ofObservations_eq_ok {stepHours : Nat} (hstep : 0 < stepHours)
    {observations : List Observation} (hne : observations ≠ [])
    (hcalendar : StaysInCalendar stepHours observations) :
    ofObservations stepHours observations =
      .ok ⟨columnsOf observations, stepHours, gridRows stepHours observations⟩ := by
  rw [ofObservations_eq hstep hne, if_pos ((fits_iff hstep hne).mpr hcalendar)]

/-- **The grid of observations.**  Observations in any order give a grid, if the sweep stays
within the calendar, and it is the only one that is laid out as `LaidOut` says. -/
theorem ofObservations_laidOut {stepHours : Nat} (hstep : 0 < stepHours)
    {observations : List Observation} (hne : observations ≠ [])
    (hcalendar : StaysInCalendar stepHours observations) :
    ∃ g, ofObservations stepHours observations = .ok g ∧
      ∀ g', LaidOut stepHours observations g' ↔ g' = g := by
  refine ⟨_, ofObservations_eq_ok hstep hne hcalendar, ?_⟩
  intro g'
  constructor
  · intro h
    exact h.unique (laidOut_ofRows hstep hne)
  · rintro rfl
    exact laidOut_ofRows hstep hne

/-- Observations of two columns around the start of 1970, in no order and with a tie. -/
def unordered : List Observation :=
  [⟨⟨-3600, 0⟩, 2.0, ⟨"b", "x", "z"⟩⟩, ⟨⟨7200, 1⟩, 4.0, ⟨"a", "x", "z"⟩⟩,
    ⟨⟨-40000, 5⟩, 1.0, ⟨"a", "x", "z"⟩⟩, ⟨⟨-3600, 0⟩, 3.0, ⟨"b", "x", "z"⟩⟩]

/-- The unordered observations have a grid with a step that does not divide a day. -/
theorem ofObservations_unordered :
    0 < 5 ∧ unordered ≠ [] ∧ StaysInCalendar 5 unordered ∧
      ∃ g, ofObservations 5 unordered = .ok g ∧ ∀ g', LaidOut 5 unordered g' ↔ g' = g := by
  have hstep : 0 < 5 := by decide
  have hne : unordered ≠ [] := List.cons_ne_nil _ _
  have hcalendar : StaysInCalendar 5 unordered := (fits_iff hstep hne).mp (by decide)
  exact ⟨hstep, hne, hcalendar, ofObservations_laidOut hstep hne hcalendar⟩

end SpotForecast.Grid
