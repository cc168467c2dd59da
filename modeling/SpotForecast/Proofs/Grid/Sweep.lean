import Mathlib.Data.List.Basic
import SpotForecast.Proofs.Grid.Columns
import SpotForecast.Proofs.Grid.Latest
import SpotForecast.Proofs.Grid.Points

/-!
# What a sweep leaves behind

The sweep goes once through sorted observations and carries the next grid point and the prices
seen last.  This file gets rid of the state.

* `after_nothingSeen`: after some observations the state holds the last price of every column.
* `sweep_eq`: the rows of a sweep are those grid points before the last observation at which the
  observations up to that point give every column a price.
* `ofObservations_eq`: the grid of some observations as one expression, together with the exact
  condition under which the sweep leaves the calendar.
-/

namespace SpotForecast.Grid

/-- The state after some more observations. -/
def Seen.after (seen : Seen) (observations : List Observation) : Seen :=
  observations.foldl (fun s o => s.record o.name o.price) seen

/-- The last price of a column among observations. -/
def lastPrice (observations : List Observation) (name : String) : Option Float :=
  (observations.filter (fun o => decide (o.name = name))).getLast?.map Observation.price

/-- The observations up to a grid point, that one included. -/
def upTo (second : Int) (observations : List Observation) : List Observation :=
  observations.filter (fun o => decide (o.time ≤ Instant.ofSeconds second))

/-- A row with the last price of every column, if all columns have one. -/
def rowOf? (columns : List String) (second : Int) (observations : List Observation) :
    Option Row :=
  (columns.mapM (lastPrice observations)).map (Row.mk (Instant.ofSeconds second))

/-- The row that a sweep makes at a grid point, if all columns have been seen up to there. -/
def Seen.rowAt? (seen : Seen) (observations : List Observation) (second : Int) : Option Row :=
  (seen.after (upTo second observations)).values?.map (Row.mk (Instant.ofSeconds second))

/-- The grid point from which observations are laid out: midnight of the day of the earliest. -/
def gridStart (observations : List Observation) : Int :=
  match (observations.map Observation.time).min? with
  | none => 0
  | some first => first.midnight

/-- Recording an observation gives its column its price and leaves the others alone. -/
theorem record_map (columns : List String) (f : String → Option Float) (name : String)
    (price : Float) :
    Seen.record name price (columns.map (fun n => (n, f n))) =
      columns.map (fun n => (n, if n = name then some price else f n)) := by
  simp [Seen.record]

/-- After some observations every column has the last of their prices, or the old one. -/
theorem after_map (columns : List String) (f : String → Option Float)
    (observations : List Observation) :
    Seen.after (columns.map (fun n => (n, f n))) observations =
      columns.map (fun n => (n, (lastPrice observations n).or (f n))) := by
  induction observations generalizing f with
  | nil => simp [Seen.after, lastPrice]
  | cons o rest ih =>
      have hstep : Seen.after (columns.map (fun n => (n, f n))) (o :: rest) =
          Seen.after (columns.map (fun n => (n, if n = o.name then some o.price else f n)))
            rest := by
        rw [← record_map]
        rfl
      rw [hstep, ih]
      apply List.map_congr_left
      intro n _
      by_cases hn : o.name = n
      · simp only [lastPrice, List.filter_cons, hn, decide_true, if_true, List.getLast?_cons]
        cases (rest.filter (fun o => decide (o.name = n))).getLast? <;> simp
      · simp [lastPrice, hn, Ne.symm hn]

/-- **The state of the sweep.**  After some observations it holds the last price of every column
among them. -/
theorem after_nothingSeen (columns : List String) (observations : List Observation) :
    (nothingSeen columns).after observations =
      columns.map (fun n => (n, lastPrice observations n)) := by
  rw [nothingSeen, after_map]
  simp

/-- The values of a state that gives every column a price or none. -/
theorem values?_map (columns : List String) (f : String → Option Float) :
    Seen.values? (columns.map (fun n => (n, f n))) = columns.mapM f := by
  rw [Seen.values?, List.mapM_map]
  rfl

/-- The rows of a sweep from the start are made of last prices. -/
theorem rowAt?_nothingSeen (columns : List String) (observations : List Observation)
    (second : Int) :
    (nothingSeen columns).rowAt? observations second =
      rowOf? columns second (upTo second observations) := by
  rw [Seen.rowAt?, after_nothingSeen, values?_map, rowOf?]

/-- The rows at grid points between two observations, each made for itself. -/
theorem rowsAt_eq_filterMap (seen : Seen) (seconds : List Int) :
    seen.rowsAt seconds =
      seconds.filterMap (fun second => seen.values?.map (Row.mk (Instant.ofSeconds second))) := by
  rw [Seen.rowsAt]
  cases seen.values? with
  | none => simp
  | some values => simp [List.filterMap_eq_map']

/-- Before the first observation of a sorted list nothing is up to a grid point. -/
theorem upTo_eq_nil {o : Observation} {rest : List Observation} {second : Int}
    (hsorted : (o :: rest).Pairwise (fun a b => a.time ≤ b.time))
    (hbefore : Instant.ofSeconds second < o.time) : upTo second (o :: rest) = [] := by
  rw [upTo, List.filter_eq_nil_iff]
  intro b hb
  have hle : o.time ≤ b.time := by
    rcases List.mem_cons.mp hb with rfl | hb
    · exact le_refl _
    · exact List.rel_of_pairwise_cons hsorted hb
  have hlt : Instant.ofSeconds second < b.time := lt_of_lt_of_le hbefore hle
  simpa using hlt

/-- The row at a grid point that is not before the first observation has seen that one. -/
theorem rowAt?_cons (seen : Seen) {o : Observation} (rest : List Observation) {second : Int}
    (hat : o.time ≤ Instant.ofSeconds second) :
    seen.rowAt? (o :: rest) second = (seen.record o.name o.price).rowAt? rest second := by
  simp [Seen.rowAt?, upTo, hat, Seen.after]

/-- Rows before the first observation have what was seen before. -/
theorem filterMap_rowAt?_before {step : Nat} (positive : 0 < step) (cursor : Int) (seen : Seen)
    {o : Observation} {rest : List Observation}
    (hsorted : (o :: rest).Pairwise (fun a b => a.time ≤ b.time)) :
    (points step cursor (pointCount step cursor o.time)).filterMap (seen.rowAt? (o :: rest)) =
      seen.rowsAt (points step cursor (pointCount step cursor o.time)) := by
  rw [rowsAt_eq_filterMap]
  apply List.filterMap_congr
  intro second hsecond
  obtain ⟨k, hk, rfl⟩ := mem_points.mp hsecond
  have hbefore := (lt_pointCount_iff positive).mp hk
  rw [Seen.rowAt?, upTo_eq_nil hsorted hbefore]
  rfl

/-- Later rows are made after the first observation has been recorded. -/
theorem filterMap_rowAt?_behind {step : Nat} (positive : 0 < step) (cursor : Int) (seen : Seen)
    (o : Observation) (rest : List Observation) (n : Nat) :
    (points step (cursor + pointCount step cursor o.time * step) n).filterMap
        (seen.rowAt? (o :: rest)) =
      (points step (cursor + pointCount step cursor o.time * step) n).filterMap
        ((seen.record o.name o.price).rowAt? rest) := by
  apply List.filterMap_congr
  intro second hsecond
  obtain ⟨k, -, rfl⟩ := mem_points.mp hsecond
  have hreached : ¬Instant.ofSeconds
      (cursor + ((pointCount step cursor o.time + k : Nat) : Int) * step) < o.time := by
    rw [← lt_pointCount_iff positive]
    omega
  rw [add_natCast_mul, not_lt] at hreached
  exact rowAt?_cons seen rest hreached

/-- **The sweep.**  Over sorted observations it passes the grid points before the last of them,
and makes a row at each of those where every column has been seen. -/
theorem sweep_eq {step : Nat} (positive : 0 < step) (cursor : Int) (seen : Seen)
    {observations : List Observation}
    (hsorted : observations.Pairwise (fun a b => a.time ≤ b.time)) :
    sweep step positive cursor seen observations =
      if passedCount step cursor observations = 0 ∨
          cursor + passedCount step cursor observations * step < Instant.endSecond then
        some ⟨cursor + passedCount step cursor observations * step,
          (points step cursor (passedCount step cursor observations)).filterMap
            (seen.rowAt? observations)⟩
      else none := by
  induction observations generalizing cursor seen with
  | nil => simp [sweep, passedCount, points]
  | cons o rest ih =>
      have hrest := (List.pairwise_cons.mp hsorted).2
      have hfront := filterMap_rowAt?_before positive cursor seen hsorted
      have hback := filterMap_rowAt?_behind positive cursor seen o rest
      rw [sweep, advance_eq positive, passedCount_cons positive]
      generalize pointCount step cursor o.time = m at hfront hback ⊢
      have hlater := ih (cursor + m * step) (seen.record o.name o.price) hrest
      generalize passedCount step (cursor + m * step) rest = n at hlater ⊢
      have hrows : (points step cursor (m + n)).filterMap (seen.rowAt? (o :: rest)) =
          seen.rowsAt (points step cursor m) ++ (points step (cursor + m * step) n).filterMap
            ((seen.record o.name o.price).rowAt? rest) := by
        rw [points_add, List.filterMap_append, hfront, hback]
      simp only [below_add_iff]
      rw [add_natCast_mul, hrows]
      by_cases hm : m = 0 ∨ cursor + m * step < Instant.endSecond
      · by_cases hn : n = 0 ∨ cursor + m * step + n * step < Instant.endSecond
        · rw [if_pos hm, if_pos ⟨hm, hn⟩]
          simp only [hlater, if_pos hn, List.append_nil, List.reverse_reverse]
        · rw [if_pos hm, if_neg (fun h => hn h.2)]
          simp only [hlater, if_neg hn]
      · rw [if_neg hm, if_neg (fun h => hm h.1)]

/-- A list that is sorted to one with a first element has the time of that one as its least. -/
theorem min?_of_inOrder {observations rest : List Observation} {first : Observation}
    (h : inOrder observations = first :: rest) :
    (observations.map Observation.time).min? = some first.time := by
  rw [List.min?_eq_some_iff]
  have hmem : first ∈ observations := by
    rw [← mem_inOrder, h]
    exact List.mem_cons_self
  refine ⟨List.mem_map_of_mem hmem, ?_⟩
  intro t ht
  obtain ⟨o, ho, rfl⟩ := List.mem_map.mp ht
  rw [← mem_inOrder, h] at ho
  have hsorted := inOrder_pairwise observations
  rw [h] at hsorted
  rcases List.mem_cons.mp ho with rfl | ho
  · exact le_refl _
  · exact List.rel_of_pairwise_cons hsorted ho

/-- Sorting does not change which grid points are passed. -/
theorem passedCount_inOrder {step : Nat} (positive : 0 < step) (cursor : Int)
    (observations : List Observation) :
    passedCount step cursor (inOrder observations) = passedCount step cursor observations := by
  apply eq_of_forall_lt_iff
  intro k
  simp only [lt_passedCount_iff positive, mem_inOrder]

/-- The number of grid points that a sweep over observations passes. -/
def gridCount (stepHours : Nat) (observations : List Observation) : Nat :=
  passedCount (stepHours * secondsPerHour) (gridStart observations) observations

/-- The grid point at which a sweep over observations ends. -/
def gridEnd (stepHours : Nat) (observations : List Observation) : Int :=
  gridStart observations + gridCount stepHours observations * (stepHours * secondsPerHour : Nat)

/-- The sweep stays within the calendar: it passes no point, or ends before the calendar does. -/
def Fits (stepHours : Nat) (observations : List Observation) : Prop :=
  gridCount stepHours observations = 0 ∨ gridEnd stepHours observations < Instant.endSecond

instance (stepHours : Nat) (observations : List Observation) :
    Decidable (Fits stepHours observations) :=
  inferInstanceAs (Decidable (_ ∨ _))

/-- The rows of the grid of observations: of the grid points before the last observation, those at
which every column has a price. -/
def gridRows (stepHours : Nat) (observations : List Observation) : List Row :=
  (points (stepHours * secondsPerHour) (gridStart observations)
    (gridCount stepHours observations)).filterMap
      (fun second => rowOf? (columnsOf observations) second (upTo second (inOrder observations)))

/-- The grid of observations is what a sweep from the first grid point leaves behind. -/
theorem ofObservations_eq_sweep {stepHours : Nat} (hstep : 0 < stepHours)
    {observations : List Observation} (hne : observations ≠ []) :
    ofObservations stepHours observations =
      (sweep (stepHours * secondsPerHour) (Nat.mul_pos hstep (by decide)) (gridStart observations)
          (nothingSeen (columnsOf observations)) (inOrder observations)).elim
        (.error (.abort .calendarEnd))
        (fun swept => .ok ⟨columnsOf observations, stepHours, swept.rows⟩) := by
  cases hsorted : inOrder observations with
  | nil => exact absurd (inOrder_eq_nil_iff.mp hsorted) hne
  | cons first rest =>
      have hstart : first.time.midnight = gridStart observations := by
        rw [gridStart, min?_of_inOrder hsorted]
      have hcolumns : columnsOf (first :: rest) = columnsOf observations := by
        rw [← hsorted]
        exact columnsOf_perm (inOrder_perm observations)
      rw [ofObservations, dif_pos hstep]
      simp only [hsorted, hcolumns, hstart]
      generalize sweep _ _ (gridStart observations) _ (first :: rest) = final
      cases final with
      | none => rfl
      | some swept => rfl

/-- **The grid of observations.**  It is there exactly if the sweep stays within the calendar. -/
theorem ofObservations_eq {stepHours : Nat} (hstep : 0 < stepHours)
    {observations : List Observation} (hne : observations ≠ []) :
    ofObservations stepHours observations =
      if Fits stepHours observations then
        .ok ⟨columnsOf observations, stepHours, gridRows stepHours observations⟩
      else .error (.abort .calendarEnd) := by
  have hpositive : 0 < stepHours * secondsPerHour := Nat.mul_pos hstep (by decide)
  have hcount : passedCount (stepHours * secondsPerHour) (gridStart observations)
      (inOrder observations) = gridCount stepHours observations := by
    rw [passedCount_inOrder hpositive, gridCount]
  have hrows : (nothingSeen (columnsOf observations)).rowAt? (inOrder observations) =
      fun second =>
        rowOf? (columnsOf observations) second (upTo second (inOrder observations)) := by
    funext second
    rw [rowAt?_nothingSeen]
  rw [ofObservations_eq_sweep hstep hne, sweep_eq hpositive _ _ (inOrder_pairwise observations),
    hcount, hrows]
  by_cases hfits : Fits stepHours observations
  · have hinside := hfits
    rw [Fits, gridEnd] at hinside
    rw [if_pos hfits, if_pos hinside, gridRows, Option.elim_some]
  · have houtside := hfits
    rw [Fits, gridEnd] at houtside
    rw [if_neg hfits, if_neg houtside, Option.elim_none]

/-- Only observations with a positive step that fit give a grid, and they give this one. -/
theorem ofObservations_eq_ok_iff {stepHours : Nat} {observations : List Observation} {g : Grid} :
    ofObservations stepHours observations = .ok g ↔
      0 < stepHours ∧ observations ≠ [] ∧ Fits stepHours observations ∧
        g = ⟨columnsOf observations, stepHours, gridRows stepHours observations⟩ := by
  by_cases hstep : 0 < stepHours
  · by_cases hne : observations = []
    · subst hne
      simp [ofObservations, hstep]
    · rw [ofObservations_eq hstep hne]
      split
      · rename_i hfits
        simp [hstep, hne, hfits, eq_comm]
      · rename_i hfits
        simp [hfits]
  · simp [ofObservations, hstep]

/-- Observations that are in the order of their times are swept as they stand. -/
theorem ofObservations_of_pairwise {stepHours : Nat} {observations : List Observation}
    (hstep : 0 < stepHours) (hne : observations ≠ []) (hfits : Fits stepHours observations)
    (hsorted : observations.Pairwise (fun a b => a.time ≤ b.time)) :
    ofObservations stepHours observations = .ok ⟨columnsOf observations, stepHours,
      (points (stepHours * secondsPerHour) (gridStart observations)
        (gridCount stepHours observations)).filterMap
          (fun second => rowOf? (columnsOf observations) second (upTo second observations))⟩ := by
  have hinOrder : inOrder observations = observations :=
    List.mergeSort_of_pairwise (hsorted.imp decide_eq_true)
  rw [ofObservations_eq_ok_iff.mpr ⟨hstep, hne, hfits, rfl⟩, gridRows, hinOrder]

end SpotForecast.Grid
