import SpotForecast.Proofs.Grid.Layout

/-!
# How many rows a grid has

A grid has a row at every grid point from the first observation of the column that starts last up to
the last observation of all, that one excluded.  So the number of rows is the number of grid points
before the one less the number of those before the other (`length_gridRows`), wherever the grid
points lie between them.

Observations of one column are counted from their first to their last.  Over a time of a whole
number of steps there are at least that many rows if it passes between the two, and at most that
many if no more than it passes (`le_length_gridRows`, `length_gridRows_le`).
-/

namespace SpotForecast.Grid

variable {step stepHours m n : Nat} {cursor : Int} {observations : List Observation} {name : String}
  {first primed last a b : Instant}

/-- A later instant by a number of steps has at least that many more grid points before it. -/
theorem pointCount_add_le (positive : 0 < step) (hcursor : cursor ≤ a.nextSecond)
    (h : a.nextSecond + n * step ≤ b.nextSecond) :
    pointCount step cursor a + n ≤ pointCount step cursor b := by
  have hstep : (0 : Int) < step := by omega
  have hshift : (a.nextSecond - cursor + step - 1 + n * step) / (step : Int) =
      (a.nextSecond - cursor + step - 1) / step + n :=
    Int.add_mul_ediv_right _ _ (by omega)
  have hmono : (a.nextSecond - cursor + step - 1 + n * step) / (step : Int) ≤
      (b.nextSecond - cursor + step - 1) / step :=
    Int.ediv_le_ediv hstep (by omega)
  have hnonneg : 0 ≤ (a.nextSecond - cursor + step - 1) / (step : Int) :=
    Int.ediv_nonneg (by omega) (by omega)
  rw [pointCount, pointCount]
  omega

/-- An instant that is later by no more than a number of steps has at most that many more grid
points before it. -/
theorem pointCount_le_add (positive : 0 < step)
    (h : b.nextSecond ≤ a.nextSecond + n * step) :
    pointCount step cursor b ≤ pointCount step cursor a + n := by
  have hstep : (0 : Int) < step := by omega
  have hshift : (a.nextSecond - cursor + step - 1 + n * step) / (step : Int) =
      (a.nextSecond - cursor + step - 1) / step + n :=
    Int.add_mul_ediv_right _ _ (by omega)
  have hmono : (b.nextSecond - cursor + step - 1) / (step : Int) ≤
      (a.nextSecond - cursor + step - 1 + n * step) / step :=
    Int.ediv_le_ediv hstep (by omega)
  rw [pointCount, pointCount]
  omega

/-- The grid points that are passed are those before the last observation. -/
theorem gridCount_eq (hstep : 0 < stepHours)
    (hlast : (observations.map Observation.time).max? = some last) :
    gridCount stepHours observations =
      pointCount (stepHours * secondsPerHour) (gridStart observations) last := by
  have hpositive : 0 < stepHours * secondsPerHour := Nat.mul_pos hstep (by decide)
  apply eq_of_forall_lt_iff
  intro k
  rw [lt_gridCount_iff hstep, lt_pointCount_iff hpositive, lt_max?_iff hlast]

/-- A grid point makes a row exactly if it does not lie before the column that starts last. -/
theorem exists_rowOf?_point_iff (hstep : 0 < stepHours)
    (hprimed : ((columnsOf observations).filterMap (firstTime? observations)).max? = some primed)
    {k : Nat} :
    (∃ r, rowOf? (columnsOf observations)
        (gridStart observations + k * (stepHours * secondsPerHour : Nat))
        (upTo (gridStart observations + k * (stepHours * secondsPerHour : Nat))
          (inOrder observations)) = some r) ↔
      pointCount (stepHours * secondsPerHour) (gridStart observations) primed ≤ k := by
  have hpositive : 0 < stepHours * secondsPerHour := Nat.mul_pos hstep (by decide)
  have hreached : pointCount (stepHours * secondsPerHour) (gridStart observations) primed ≤ k ↔
      primed ≤ Instant.ofSeconds
        (gridStart observations + k * (stepHours * secondsPerHour : Nat)) := by
    rw [← not_lt, lt_pointCount_iff hpositive, not_lt]
  rw [hreached, exists_rowOf?_iff, forall_columns_seen_iff, List.max?_le_iff hprimed]

/-- The grid points before the column that starts last are among those that are passed. -/
theorem pointCount_primed_le (hstep : 0 < stepHours)
    (hprimed : ((columnsOf observations).filterMap (firstTime? observations)).max? = some primed) :
    pointCount (stepHours * secondsPerHour) (gridStart observations) primed ≤
      gridCount stepHours observations := by
  have hpositive : 0 < stepHours * secondsPerHour := Nat.mul_pos hstep (by decide)
  obtain ⟨name, hname, hfirst⟩ :=
    List.mem_filterMap.mp (List.max?_eq_some_iff.mp hprimed).1
  obtain ⟨o, ho, -, hstart⟩ := exists_firstTime? hname
  rw [hfirst, Option.some.injEq] at hstart
  apply le_of_forall_lt
  intro k hk
  rw [lt_pointCount_iff hpositive, hstart] at hk
  rw [lt_gridCount_iff hstep]
  exact ⟨o, ho, hk⟩

/-- No point makes a row until the column that starts last has. -/
theorem filterMap_rowOf?_front (hstep : 0 < stepHours)
    (hprimed : ((columnsOf observations).filterMap (firstTime? observations)).max? = some primed)
    (hm : m ≤ pointCount (stepHours * secondsPerHour) (gridStart observations) primed) :
    (points (stepHours * secondsPerHour) (gridStart observations) m).filterMap (fun second =>
      rowOf? (columnsOf observations) second (upTo second (inOrder observations))) = [] := by
  rw [List.filterMap_eq_nil_iff]
  intro second hsecond
  obtain ⟨k, hk, rfl⟩ := mem_points.mp hsecond
  rw [Option.eq_none_iff_forall_not_mem]
  intro r hr
  have hreached := (exists_rowOf?_point_iff hstep hprimed).mp ⟨r, hr⟩
  omega

/-- From there on every point makes one, with its own time. -/
theorem map_time_filterMap_rowOf? (hstep : 0 < stepHours)
    (hprimed : ((columnsOf observations).filterMap (firstTime? observations)).max? = some primed)
    (hm : pointCount (stepHours * secondsPerHour) (gridStart observations) primed ≤ m) (n : Nat) :
    ((points (stepHours * secondsPerHour)
        (gridStart observations + m * (stepHours * secondsPerHour : Nat)) n).filterMap
      (fun second => rowOf? (columnsOf observations) second
        (upTo second (inOrder observations)))).map Row.time =
      (points (stepHours * secondsPerHour)
        (gridStart observations + m * (stepHours * secondsPerHour : Nat)) n).map
        Instant.ofSeconds := by
  rw [List.map_filterMap, ← List.filterMap_eq_map]
  apply List.filterMap_congr
  intro second hsecond
  obtain ⟨k, hk, rfl⟩ := mem_points.mp hsecond
  have hreached := Nat.le_trans hm (Nat.le_add_right m k)
  obtain ⟨r, hr⟩ := (exists_rowOf?_point_iff hstep hprimed).mpr hreached
  rw [← add_natCast_mul, hr, Option.map_some, (rowOf?_eq_some_iff.mp hr).1]
  rfl

/-- **The times of the rows** are the grid points from the first observation of the column that
starts last up to the last observation of all, without a gap. -/
theorem map_time_gridRows (hstep : 0 < stepHours)
    (hprimed : ((columnsOf observations).filterMap (firstTime? observations)).max? = some primed) :
    (gridRows stepHours observations).map Row.time =
      (points (stepHours * secondsPerHour)
        (gridStart observations +
          pointCount (stepHours * secondsPerHour) (gridStart observations) primed *
            (stepHours * secondsPerHour : Nat))
        (gridCount stepHours observations -
          pointCount (stepHours * secondsPerHour) (gridStart observations) primed)).map
        Instant.ofSeconds := by
  obtain ⟨n, hn⟩ := Nat.exists_eq_add_of_le (pointCount_primed_le hstep hprimed)
  rw [gridRows, hn, Nat.add_sub_cancel_left, points_add, List.filterMap_append]
  rw [filterMap_rowOf?_front hstep hprimed (Nat.le_refl _), List.nil_append]
  exact map_time_filterMap_rowOf? hstep hprimed (Nat.le_refl _) n

/-- **The number of rows** is that of the grid points from the first observation of the column that
starts last up to the last observation of all. -/
theorem length_gridRows (hstep : 0 < stepHours)
    (hprimed : ((columnsOf observations).filterMap (firstTime? observations)).max? = some primed)
    (hlast : (observations.map Observation.time).max? = some last) :
    (gridRows stepHours observations).length =
      pointCount (stepHours * secondsPerHour) (gridStart observations) last -
        pointCount (stepHours * secondsPerHour) (gridStart observations) primed := by
  have htimes := congrArg List.length (map_time_gridRows hstep hprimed)
  rw [List.length_map, List.length_map, points, List.length_map, List.length_range] at htimes
  rw [htimes, gridCount_eq hstep hlast]

/-- Observations of one name have one column. -/
theorem columnsOf_eq_singleton (hne : observations ≠ [])
    (hname : ∀ o ∈ observations, o.name = name) : columnsOf observations = [name] := by
  apply List.Pairwise.eq_of_mem_iff (columnsOf_pairwise observations) (List.pairwise_singleton _ _)
  intro other
  rw [mem_columnsOf, List.mem_singleton]
  constructor
  · rintro ⟨o, ho, rfl⟩
    exact hname o ho
  · rintro rfl
    obtain ⟨o, ho⟩ := List.exists_mem_of_ne_nil _ hne
    exact ⟨o, ho, hname o ho⟩

/-- The only column of a list starts with its earliest observation. -/
theorem filterMap_firstTime?_eq_singleton (hne : observations ≠ [])
    (hname : ∀ o ∈ observations, o.name = name)
    (hfirst : (observations.map Observation.time).min? = some first) :
    (columnsOf observations).filterMap (firstTime? observations) = [first] := by
  have hall : observations.filter (fun o => decide (o.name = name)) = observations :=
    List.filter_eq_self.mpr (fun o ho => decide_eq_true (hname o ho))
  have hstart : firstTime? observations name = some first := by
    rw [firstTime?, hall, hfirst]
  rw [columnsOf_eq_singleton hne hname, List.filterMap_cons_some hstart, List.filterMap_nil]

/-- All columns of a list with one have been observed from its earliest observation on. -/
theorem max?_firstTime?_of_name (hne : observations ≠ [])
    (hname : ∀ o ∈ observations, o.name = name)
    (hfirst : (observations.map Observation.time).min? = some first) :
    ((columnsOf observations).filterMap (firstTime? observations)).max? = some first := by
  rw [filterMap_firstTime?_eq_singleton hne hname hfirst]
  rfl

/-- The rows of one column are counted from its first observation to its last. -/
theorem length_gridRows_of_name (hstep : 0 < stepHours) (hne : observations ≠ [])
    (hname : ∀ o ∈ observations, o.name = name)
    (hfirst : (observations.map Observation.time).min? = some first)
    (hlast : (observations.map Observation.time).max? = some last) :
    (gridRows stepHours observations).length =
      pointCount (stepHours * secondsPerHour) first.midnight last -
        pointCount (stepHours * secondsPerHour) first.midnight first := by
  have hprimed := max?_firstTime?_of_name hne hname hfirst
  rw [length_gridRows hstep hprimed hlast, gridStart, hfirst]

/-- The day of an instant begins no later than the next second. -/
theorem midnight_le_nextSecond (t : Instant) : t.midnight ≤ t.nextSecond := by
  obtain ⟨-, hle, -⟩ := t.midnight_bounds
  rw [Instant.nextSecond]
  split <;> omega

/-- **Enough rows.**  Where at least some steps pass between the first and the last observation of
one column, there are at least as many rows. -/
theorem le_length_gridRows (hstep : 0 < stepHours) (hne : observations ≠ [])
    (hname : ∀ o ∈ observations, o.name = name)
    (hfirst : (observations.map Observation.time).min? = some first)
    (hlast : (observations.map Observation.time).max? = some last)
    (h : first.nextSecond + n * (stepHours * secondsPerHour : Nat) ≤ last.nextSecond) :
    n ≤ (gridRows stepHours observations).length := by
  have hpositive : 0 < stepHours * secondsPerHour := Nat.mul_pos hstep (by decide)
  have hcount := pointCount_add_le hpositive (midnight_le_nextSecond first) h
  rw [length_gridRows_of_name hstep hne hname hfirst hlast]
  omega

/-- **Too few rows.**  Where at most some steps pass between the first and the last observation of
one column, there are at most as many rows. -/
theorem length_gridRows_le (hstep : 0 < stepHours) (hne : observations ≠ [])
    (hname : ∀ o ∈ observations, o.name = name)
    (hfirst : (observations.map Observation.time).min? = some first)
    (hlast : (observations.map Observation.time).max? = some last)
    (h : last.nextSecond ≤ first.nextSecond + n * (stepHours * secondsPerHour : Nat)) :
    (gridRows stepHours observations).length ≤ n := by
  have hpositive : 0 < stepHours * secondsPerHour := Nat.mul_pos hstep (by decide)
  have hcount : pointCount _ first.midnight last ≤ pointCount _ first.midnight first + n :=
    pointCount_le_add hpositive h
  rw [length_gridRows_of_name hstep hne hname hfirst hlast]
  omega

end SpotForecast.Grid
