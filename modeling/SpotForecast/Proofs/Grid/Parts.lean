import SpotForecast.Proofs.Grid.Layout

/-!
# Grids that are parts of others

The rows of some grids are among those of others.

* Observations that come later, of columns that are there already, change no row that there was: the
  rows of the longer list begin with those of the shorter one (`exists_rows_append`).  The first
  rows do not see what is added, because they lie before the last observation of the shorter list.
* With a step that is some times as long, the rows are those whose distance from the first grid
  point is a multiple of the longer step (`exists_rows_mul`).

In both cases it is enough that the larger sweep stays within the calendar.
-/

namespace SpotForecast.Grid

variable {xs ys observations : List Observation} {s m stepHours : Nat} {second start : Int}
  {t : Instant}

/-! ### Later observations -/

theorem gridStart_append (hne : xs ≠ []) (hlater : ∀ x ∈ xs, ∀ y ∈ ys, x.time ≤ y.time) :
    gridStart (xs ++ ys) = gridStart xs := by
  obtain ⟨first, -, hfirst, -⟩ := exists_time_bounds hne
  obtain ⟨hmem, hleast⟩ := List.min?_eq_some_iff.mp hfirst
  have hall : ((xs ++ ys).map Observation.time).min? = some first := by
    rw [List.min?_eq_some_iff, List.map_append]
    refine ⟨List.mem_append_left _ hmem, ?_⟩
    intro t ht
    rcases List.mem_append.mp ht with ht | ht
    · exact hleast t ht
    · obtain ⟨x, hx, rfl⟩ := List.mem_map.mp hmem
      obtain ⟨y, hy, rfl⟩ := List.mem_map.mp ht
      exact hlater x hx y hy
  rw [gridStart, gridStart, hall, hfirst]

theorem columnsOf_append (hnames : ∀ y ∈ ys, ∃ x ∈ xs, x.name = y.name) :
    columnsOf (xs ++ ys) = columnsOf xs := by
  apply List.Pairwise.eq_of_mem_iff (columnsOf_pairwise _) (columnsOf_pairwise _)
  intro name
  rw [mem_columnsOf, mem_columnsOf]
  constructor
  · rintro ⟨o, ho, rfl⟩
    rcases List.mem_append.mp ho with ho | ho
    · exact ⟨o, ho, rfl⟩
    · exact hnames o ho
  · rintro ⟨o, ho, hname⟩
    exact ⟨o, List.mem_append_left _ ho, hname⟩

/-- Up to a grid point before an old observation there are no new ones. -/
theorem upTo_append (hlater : ∀ x ∈ xs, ∀ y ∈ ys, x.time ≤ y.time)
    (hbefore : ∃ x ∈ xs, Instant.ofSeconds second < x.time) :
    upTo second (inOrder (xs ++ ys)) = upTo second (inOrder xs) := by
  obtain ⟨x, hx, hlt⟩ := hbefore
  have hnone : ys.filter (fun o => decide (o.time ≤ Instant.ofSeconds second)) = [] := by
    rw [List.filter_eq_nil_iff]
    intro y hy
    have hafter := lt_of_lt_of_le hlt (hlater x hx y hy)
    simpa using hafter
  have hfilter : (xs ++ ys).filter (fun o => decide (o.time ≤ Instant.ofSeconds second)) =
      xs.filter (fun o => decide (o.time ≤ Instant.ofSeconds second)) := by
    rw [List.filter_append, hnone, List.append_nil]
  rw [upTo, upTo, filter_inOrder, filter_inOrder, hfilter]

theorem gridCount_le_append (hstep : 0 < stepHours) (hne : xs ≠ [])
    (hlater : ∀ x ∈ xs, ∀ y ∈ ys, x.time ≤ y.time) :
    gridCount stepHours xs ≤ gridCount stepHours (xs ++ ys) := by
  apply le_of_forall_lt
  intro k hk
  rw [lt_gridCount_iff hstep] at hk ⊢
  obtain ⟨x, hx, hlt⟩ := hk
  refine ⟨x, List.mem_append_left _ hx, ?_⟩
  rwa [gridStart_append hne hlater]

/-- A sweep over fewer observations stays within the calendar if the longer one does. -/
theorem StaysInCalendar.of_append (hstep : 0 < stepHours) (hne : xs ≠ [])
    (hlater : ∀ x ∈ xs, ∀ y ∈ ys, x.time ≤ y.time)
    (h : StaysInCalendar stepHours (xs ++ ys)) : StaysInCalendar stepHours xs := by
  have hne' : xs ++ ys ≠ [] := by simp [hne]
  rw [staysInCalendar_iff hstep hne', gridStart_append hne hlater] at h
  rw [staysInCalendar_iff hstep hne]
  intro k hk
  exact h k (lt_of_lt_of_le hk (gridCount_le_append hstep hne hlater))

/-- The rows of the shorter list come first, and no other lies before its last observation. -/
theorem exists_gridRows_append (hstep : 0 < stepHours) (hne : xs ≠ [])
    (hlater : ∀ x ∈ xs, ∀ y ∈ ys, x.time ≤ y.time)
    (hnames : ∀ y ∈ ys, ∃ x ∈ xs, x.name = y.name) :
    ∃ rows, gridRows stepHours (xs ++ ys) = gridRows stepHours xs ++ rows ∧
      ∀ r ∈ rows, ∀ x ∈ xs, x.time ≤ r.time := by
  obtain ⟨n, hcount⟩ := Nat.exists_eq_add_of_le (gridCount_le_append hstep hne hlater)
  refine ⟨(points (stepHours * secondsPerHour) (gridStart xs +
    gridCount stepHours xs * (stepHours * secondsPerHour : Nat)) n).filterMap
      (fun second => rowOf? (columnsOf xs) second (upTo second (inOrder (xs ++ ys)))),
    ?same, ?behind⟩
  case same =>
    have hstart := gridStart_append hne hlater
    have hcolumns := columnsOf_append hnames
    rw [gridRows, hcount, hstart, hcolumns, points_add, List.filterMap_append]
    congr 1
    apply List.filterMap_congr
    intro second hsecond
    obtain ⟨k, hk, rfl⟩ := mem_points.mp hsecond
    rw [upTo_append hlater ((lt_gridCount_iff hstep).mp hk)]
  case behind =>
    intro r hr x hx
    obtain ⟨second, hsecond, hrow⟩ := List.mem_filterMap.mp hr
    obtain ⟨k, -, rfl⟩ := mem_points.mp hsecond
    have hpassed : ¬gridCount stepHours xs + k < gridCount stepHours xs := by omega
    rw [lt_gridCount_iff hstep] at hpassed
    push Not at hpassed
    have hle := hpassed x hx
    rwa [add_natCast_mul, ← (rowOf?_eq_some_iff.mp hrow).1] at hle

/-- **Growth.**  What is observed later in columns that are there already leaves these columns and
all rows as they were; new rows come behind them, none before the last of the old observations. -/
theorem exists_rows_append (hstep : 0 < stepHours) (hne : xs ≠ [])
    (hlater : ∀ x ∈ xs, ∀ y ∈ ys, x.time ≤ y.time)
    (hnames : ∀ y ∈ ys, ∃ x ∈ xs, x.name = y.name)
    (hcalendar : StaysInCalendar stepHours (xs ++ ys)) :
    ∃ g g' rows, ofObservations stepHours xs = .ok g ∧
      ofObservations stepHours (xs ++ ys) = .ok g' ∧ g'.columns = g.columns ∧
      g'.rows = g.rows ++ rows ∧ ∀ r ∈ rows, ∀ x ∈ xs, x.time ≤ r.time := by
  have hne' : xs ++ ys ≠ [] := by simp [hne]
  have hgrid := ofObservations_eq_ok hstep hne (hcalendar.of_append hstep hne hlater)
  have hgrid' := ofObservations_eq_ok hstep hne' hcalendar
  obtain ⟨rows, hrows, hbehind⟩ := exists_gridRows_append hstep hne hlater hnames
  exact ⟨_, _, rows, hgrid, hgrid', columnsOf_append hnames, hrows, hbehind⟩

/-- Two columns, the second of which starts later. -/
def firstPrices : List Observation :=
  [⟨⟨7200, 0⟩, 3.0, ⟨"a", "x", "z"⟩⟩, ⟨⟨0, 0⟩, 1.0, ⟨"a", "x", "z"⟩⟩,
    ⟨⟨3600, 5⟩, 2.0, ⟨"b", "x", "z"⟩⟩, ⟨⟨10800, 0⟩, 4.0, ⟨"b", "x", "z"⟩⟩]

/-- Prices of the same columns from the last of the first prices on. -/
def laterPrices : List Observation :=
  [⟨⟨21600, 0⟩, 6.0, ⟨"b", "x", "z"⟩⟩, ⟨⟨10800, 0⟩, 5.0, ⟨"a", "x", "z"⟩⟩]

/-- The later prices leave the rows of the first prices as they were. -/
theorem exists_rows_append_laterPrices :
    0 < 1 ∧ firstPrices ≠ [] ∧
      (∀ x ∈ firstPrices, ∀ y ∈ laterPrices, x.time ≤ y.time) ∧
      (∀ y ∈ laterPrices, ∃ x ∈ firstPrices, x.name = y.name) ∧
      StaysInCalendar 1 (firstPrices ++ laterPrices) ∧
      ∃ g g' rows, ofObservations 1 firstPrices = .ok g ∧
        ofObservations 1 (firstPrices ++ laterPrices) = .ok g' ∧ g'.columns = g.columns ∧
        g'.rows = g.rows ++ rows ∧ ∀ r ∈ rows, ∀ x ∈ firstPrices, x.time ≤ r.time := by
  have hstep : 0 < 1 := by decide
  have hne : firstPrices ≠ [] := List.cons_ne_nil _ _
  have hlater : ∀ x ∈ firstPrices, ∀ y ∈ laterPrices, x.time ≤ y.time := by decide
  have hnames : ∀ y ∈ laterPrices, ∃ x ∈ firstPrices, x.name = y.name := by decide +kernel
  have hcalendar : StaysInCalendar 1 (firstPrices ++ laterPrices) :=
    (fits_iff hstep (by simp [firstPrices])).mp (by decide)
  exact ⟨hstep, hne, hlater, hnames, hcalendar,
    exists_rows_append hstep hne hlater hnames hcalendar⟩

/-! ### Longer steps -/

/-- An instant lies some whole steps after a second. -/
def IsPointFrom (start : Int) (stepHours : Nat) (t : Instant) : Prop :=
  ∃ k : Nat, t = Instant.ofSeconds (start + k * (stepHours * secondsPerHour : Nat))

theorem isPointFrom_iff : IsPointFrom start stepHours t ↔
    t = Instant.ofSeconds
      (start + ((t.seconds - start) / (stepHours * secondsPerHour : Nat)).toNat *
        (stepHours * secondsPerHour : Nat)) := by
  constructor
  · rintro ⟨k, rfl⟩
    obtain ⟨n, hn⟩ : ∃ n, stepHours * secondsPerHour = n := ⟨_, rfl⟩
    have hdistance : start + (k : Int) * n - start = k * n := by omega
    simp only [Instant.ofSeconds, hn, hdistance]
    by_cases hzero : (n : Int) = 0
    · simp [hzero]
    · rw [Int.mul_ediv_cancel _ hzero, Int.toNat_natCast]
  · intro h
    exact ⟨_, h⟩

instance : Decidable (IsPointFrom start stepHours t) :=
  decidable_of_iff _ isPointFrom_iff.symm

/-- A point of the longer step is a point of the shorter one. -/
theorem point_mul (start : Int) (m s k : Nat) :
    start + (k : Int) * (m * s * secondsPerHour : Nat) =
      start + ((m * k : Nat) : Int) * (s * secondsPerHour : Nat) := by
  rw [← Int.natCast_mul, ← Int.natCast_mul]
  have hmul : k * (m * s * secondsPerHour) = m * k * (s * secondsPerHour) := by
    rw [Nat.mul_assoc m, Nat.mul_left_comm, Nat.mul_assoc]
  rw [hmul]

theorem lt_gridCount_mul_iff (hs : 0 < s) (hm : 0 < m) {k : Nat} :
    k < gridCount (m * s) observations ↔ m * k < gridCount s observations := by
  rw [lt_gridCount_iff (Nat.mul_pos hm hs), lt_gridCount_iff hs, point_mul]

/-- The points of a longer step are those of the shorter step that lie on it. -/
theorem filter_points (hs : 0 < s) (hm : 0 < m) (observations : List Observation) :
    (points (s * secondsPerHour) (gridStart observations) (gridCount s observations)).filter
        (fun second => IsPointFrom (gridStart observations) (m * s) (Instant.ofSeconds second)) =
      points (m * s * secondsPerHour) (gridStart observations)
        (gridCount (m * s) observations) := by
  have hpositive : 0 < s * secondsPerHour := Nat.mul_pos hs (by decide)
  have hpositive' : 0 < m * s * secondsPerHour := Nat.mul_pos (Nat.mul_pos hm hs) (by decide)
  apply List.Pairwise.eq_of_mem_iff ((points_pairwise hpositive _ _).filter _)
    (points_pairwise hpositive' _ _)
  intro second
  rw [List.mem_filter, mem_points, mem_points, decide_eq_true_eq]
  constructor
  · rintro ⟨⟨k, hk, rfl⟩, j, hj⟩
    have hsame := congrArg Instant.seconds hj
    simp only [Instant.ofSeconds] at hsame
    refine ⟨j, ?_, hsame⟩
    rw [point_mul] at hsame
    have hmul : k * (s * secondsPerHour) = m * j * (s * secondsPerHour) := by
      exact_mod_cast Int.add_left_cancel hsame
    rwa [lt_gridCount_mul_iff hs hm, ← Nat.eq_of_mul_eq_mul_right hpositive hmul]
  · rintro ⟨j, hj, rfl⟩
    exact ⟨⟨m * j, (lt_gridCount_mul_iff hs hm).mp hj, point_mul _ _ _ _⟩, j, rfl⟩

/-- Rows are made at grid points one by one, so leaving out points leaves out their rows. -/
theorem gridRows_mul (hs : 0 < s) (hm : 0 < m) (observations : List Observation) :
    gridRows (m * s) observations = (gridRows s observations).filter
      (fun r => IsPointFrom (gridStart observations) (m * s) r.time) := by
  rw [gridRows, gridRows, ← filter_points hs hm, List.filterMap_filter, List.filter_filterMap]
  apply List.filterMap_congr
  intro second _
  cases hrow : rowOf? (columnsOf observations) second (upTo second (inOrder observations)) with
  | none => simp
  | some r =>
      rw [← (rowOf?_eq_some_iff.mp hrow).1]
      rfl

/-- A sweep with a shorter step stays within the calendar if that with the longer one does. -/
theorem StaysInCalendar.of_mul (hs : 0 < s) (hm : 0 < m) (hne : observations ≠ [])
    (h : StaysInCalendar (m * s) observations) : StaysInCalendar s observations := by
  rw [staysInCalendar_iff (Nat.mul_pos hm hs) hne] at h
  rw [staysInCalendar_iff hs hne]
  intro k hk
  -- the last longer step that begins before this point ends no earlier than the shorter one
  have hpassed : k / m < gridCount (m * s) observations :=
    (lt_gridCount_mul_iff hs hm).mpr (lt_of_le_of_lt (Nat.mul_div_le k m) hk)
  have hnext := h (k / m) hpassed
  rw [point_mul] at hnext
  have hends : k + 1 ≤ m * (k / m + 1) := Nat.lt_mul_div_succ k hm
  have hle : ((k + 1 : Nat) : Int) * (s * secondsPerHour : Nat) ≤
      ((m * (k / m + 1) : Nat) : Int) * (s * secondsPerHour : Nat) :=
    Int.mul_le_mul_of_nonneg_right (by omega) (by omega)
  omega

/-- **Longer steps.**  With a step that is some times as long, the grid of observations has the same
columns, and of the rows just those that lie on the longer step, with the same values. -/
theorem exists_rows_mul (hs : 0 < s) (hm : 0 < m) (hne : observations ≠ [])
    (hcalendar : StaysInCalendar (m * s) observations) :
    ∃ fine coarse, ofObservations s observations = .ok fine ∧
      ofObservations (m * s) observations = .ok coarse ∧ coarse.columns = fine.columns ∧
      coarse.rows = fine.rows.filter
        (fun r => IsPointFrom (gridStart observations) (m * s) r.time) := by
  have hfine := ofObservations_eq_ok hs hne (hcalendar.of_mul hs hm hne)
  have hcoarse := ofObservations_eq_ok (Nat.mul_pos hm hs) hne hcalendar
  exact ⟨_, _, hfine, hcoarse, rfl, gridRows_mul hs hm observations⟩

/-- Every third row of the first prices is there with a step of three hours. -/
theorem exists_rows_mul_firstPrices :
    0 < 1 ∧ 0 < 3 ∧ firstPrices ≠ [] ∧ StaysInCalendar (3 * 1) firstPrices ∧
      ∃ fine coarse, ofObservations 1 firstPrices = .ok fine ∧
        ofObservations (3 * 1) firstPrices = .ok coarse ∧ coarse.columns = fine.columns ∧
        coarse.rows = fine.rows.filter
          (fun r => IsPointFrom (gridStart firstPrices) (3 * 1) r.time) := by
  have hs : 0 < 1 := by decide
  have hm : 0 < 3 := by decide
  have hne : firstPrices ≠ [] := List.cons_ne_nil _ _
  have hcalendar : StaysInCalendar (3 * 1) firstPrices := (fits_iff (by decide) hne).mp (by decide)
  exact ⟨hs, hm, hne, hcalendar, exists_rows_mul hs hm hne hcalendar⟩

end SpotForecast.Grid
