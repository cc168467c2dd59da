import Mathlib.Order.Bounds.Defs
import SpotForecast.Proofs.Grid.Layout

/-!
# The turns of a sweep

A sweep is a loop inside a loop.  The outer one takes the observations in the order of their times;
before it records one, the inner one lets the cursor go on, a step at a time, for as long as it is
before the observation.  `sweep` hides the inner loop behind a recursion of its own.  Here both
loops are one machine, so their turns can be counted.

`Loop.Runs` is a whole run: the turns in their order, and the state in which the loop is left.  It
ends after the last observation, or with the turn that would take the cursor past the calendar.

* `Runs.sweep_eq`: a run leaves behind what `sweep` does.
* `exists_runs`, `Runs.unique`: from every state there is one run, and no other.
* `Runs.count_advance`: the cursor goes on once for every grid point before some observation,
  also if the last time takes it past the calendar.
* `ofObservations_halts`: for the grid of observations, this number is the least one after which
  the cursor is not before the last observation, and the calendar ends too early for it exactly if
  there is no grid.
-/

namespace SpotForecast.Grid

/-- What the two loops share between two turns. -/
structure Loop where
  cursor : Int
  seen : Seen
  rows : List Row
  left : List Observation

/-- A turn of the inner or of the outer loop. -/
inductive Turn where
  | advance
  | record
deriving DecidableEq

namespace Loop

def start (observations : List Observation) : Loop :=
  ⟨gridStart observations, nothingSeen (columnsOf observations), [], inOrder observations⟩

/-- The whole runs of the loop.  A run that would leave the calendar has no state at its end. -/
inductive Runs (step : Nat) : Loop → List Turn → Option Loop → Prop where
  | finished {cursor : Int} {seen : Seen} {rows : List Row} :
      Runs step ⟨cursor, seen, rows, []⟩ [] (some ⟨cursor, seen, rows, []⟩)
  | record {cursor : Int} {seen : Seen} {rows : List Row} {o : Observation}
      {rest : List Observation} {turns : List Turn} {final : Option Loop}
      (hreached : ¬Instant.ofSeconds cursor < o.time)
      (hrest : Runs step ⟨cursor, seen.record o.name o.price, rows, rest⟩ turns final) :
      Runs step ⟨cursor, seen, rows, o :: rest⟩ (.record :: turns) final
  | advance {cursor : Int} {seen : Seen} {rows : List Row} {o : Observation}
      {rest : List Observation} {turns : List Turn} {final : Option Loop}
      (hbefore : Instant.ofSeconds cursor < o.time) (hinside : cursor + step < Instant.endSecond)
      (hrest : Runs step ⟨cursor + step, seen, rows ++ seen.rowsAt [cursor], o :: rest⟩
        turns final) :
      Runs step ⟨cursor, seen, rows, o :: rest⟩ (.advance :: turns) final
  /-- The cursor is before the next observation and cannot go on within the calendar. -/
  | overflow {cursor : Int} {seen : Seen} {rows : List Row} {o : Observation}
      {rest : List Observation}
      (hbefore : Instant.ofSeconds cursor < o.time) (houtside : Instant.endSecond ≤ cursor + step) :
      Runs step ⟨cursor, seen, rows, o :: rest⟩ [.advance] none

end Loop

variable {step stepHours : Nat} {cursor : Int} {seen : Seen} {rows : List Row} {o : Observation}
  {rest observations : List Observation} {t : Instant} {l : Loop} {turns turns' : List Turn}
  {final final' : Option Loop}

/-! ### The sweep, one turn at a time -/

/-- Points that were passed earlier stay behind those that are passed from now on. -/
theorem advance_append (positive : 0 < step) (t : Instant) (cursor : Int) (passed : List Int) :
    advance step positive t cursor passed =
      (advance step positive t cursor []).map (fun (next, points) => (next, points ++ passed)) := by
  rw [advance_eq, advance_eq]
  split
  · simp
  · rfl

theorem rowsAt_cons (seen : Seen) (second : Int) (seconds : List Int) :
    seen.rowsAt (second :: seconds) = seen.rowsAt [second] ++ seen.rowsAt seconds := by
  unfold Seen.rowsAt
  cases seen.values? with
  | none => rfl
  | some values => rfl

/-- A sweep that has reached the next observation records it. -/
theorem sweep_of_reached (positive : 0 < step) (hreached : ¬Instant.ofSeconds cursor < o.time) :
    sweep step positive cursor seen (o :: rest) =
      sweep step positive cursor (seen.record o.name o.price) rest := by
  have hstay : advance step positive o.time cursor [] = some (cursor, []) := by
    rw [advance, dif_neg hreached]
  have hnone : seen.rowsAt [] = [] := by
    unfold Seen.rowsAt
    cases seen.values? with
    | none => rfl
    | some values => rfl
  rw [sweep, hstay]
  simp only [List.reverse_nil, hnone, List.nil_append]
  cases sweep step positive cursor (seen.record o.name o.price) rest with
  | none => rfl
  | some swept => rfl

/-- A sweep before the next observation goes on by one step, if it can. -/
theorem sweep_of_before (positive : 0 < step) (hbefore : Instant.ofSeconds cursor < o.time) :
    sweep step positive cursor seen (o :: rest) =
      if Instant.endSecond ≤ cursor + step then none
      else (sweep step positive (cursor + step) seen (o :: rest)).map
        (fun swept => ⟨swept.cursor, seen.rowsAt [cursor] ++ swept.rows⟩) := by
  rw [sweep, advance, dif_pos hbefore]
  by_cases houtside : Instant.endSecond ≤ cursor + step
  · rw [if_pos houtside, if_pos houtside]
  · rw [if_neg houtside, if_neg houtside, advance_append, sweep]
    cases advance step positive o.time (cursor + step) [] with
    | none => rfl
    | some passed =>
        obtain ⟨next, points⟩ := passed
        simp only [Option.map_some, List.reverse_append, List.reverse_singleton,
          List.singleton_append, rowsAt_cons seen cursor points.reverse]
        cases sweep step positive next (seen.record o.name o.price) rest with
        | none => rfl
        | some swept => simp

theorem passedCount_pos_of_before (positive : 0 < step)
    (hbefore : Instant.ofSeconds cursor < o.time) (rest : List Observation) :
    0 < passedCount step cursor (o :: rest) := by
  have hsome := (pointCount_pos_iff positive).mpr hbefore
  rw [passedCount]
  omega

/-! ### Whole runs -/

namespace Loop

/-- A run leaves behind what a sweep does, after the rows that were there. -/
theorem Runs.sweep_eq (positive : 0 < step) (h : Runs step l turns final) :
    (sweep step positive l.cursor l.seen l.left).map
        (fun swept => (swept.cursor, l.rows ++ swept.rows)) =
      final.map (fun l' => (l'.cursor, l'.rows)) := by
  induction h with
  | finished => simp [sweep]
  | record hreached _ ih =>
      rw [sweep_of_reached positive hreached]
      exact ih
  | advance hbefore hinside _ ih =>
      rw [sweep_of_before positive hbefore, if_neg (by omega), ← ih, Option.map_map]
      simp only [Function.comp_def, List.append_assoc]
  | overflow hbefore houtside =>
      rw [sweep_of_before positive hbefore, if_pos houtside]
      rfl

/-- **Every loop ends.**  The induction is on the observations that are left, and for each of them
on the grid points before it. -/
theorem exists_runs (positive : 0 < step) (cursor : Int) (seen : Seen) (rows : List Row)
    (observations : List Observation) :
    ∃ turns final, Runs step ⟨cursor, seen, rows, observations⟩ turns final := by
  induction observations generalizing cursor seen rows with
  | nil => exact ⟨[], _, .finished⟩
  | cons o rest ih =>
      induction hcount : pointCount step cursor o.time generalizing cursor rows with
      | zero =>
          have hreached : ¬Instant.ofSeconds cursor < o.time := by
            rw [← pointCount_pos_iff positive]
            omega
          obtain ⟨turns, final, hruns⟩ := ih cursor (seen.record o.name o.price) rows
          exact ⟨.record :: turns, final, .record hreached hruns⟩
      | succ n ihCount =>
          have hbefore : Instant.ofSeconds cursor < o.time := by
            rw [← pointCount_pos_iff positive]
            omega
          by_cases hinside : cursor + step < Instant.endSecond
          · have hfewer : pointCount step (cursor + step) o.time = n := by
              rw [pointCount_next positive]
              omega
            obtain ⟨turns, final, hruns⟩ :=
              ihCount (cursor + step) (rows ++ seen.rowsAt [cursor]) hfewer
            exact ⟨.advance :: turns, final, .advance hbefore hinside hruns⟩
          · exact ⟨[.advance], none, .overflow hbefore (by omega)⟩

/-- The state decides the next turn, so a loop has only one run. -/
theorem Runs.unique (h : Runs step l turns final) (h' : Runs step l turns' final') :
    turns' = turns ∧ final' = final := by
  induction h generalizing turns' final' with
  | finished =>
      cases h' with
      | finished => exact ⟨rfl, rfl⟩
  | record hreached _ ih =>
      cases h' with
      | record _ hrest' =>
          obtain ⟨hturns, hfinal⟩ := ih hrest'
          exact ⟨congrArg _ hturns, hfinal⟩
      | advance hbefore _ _ => exact absurd hbefore hreached
      | overflow hbefore _ => exact absurd hbefore hreached
  | advance hbefore hinside _ ih =>
      cases h' with
      | record hreached _ => exact absurd hbefore hreached
      | advance _ _ hrest' =>
          obtain ⟨hturns, hfinal⟩ := ih hrest'
          exact ⟨congrArg _ hturns, hfinal⟩
      | overflow _ houtside => omega
  | overflow hbefore houtside =>
      cases h' with
      | record hreached _ => exact absurd hbefore hreached
      | advance _ hinside _ => omega
      | overflow _ _ => exact ⟨rfl, rfl⟩

/-- **The number of advances.**  A record passes no grid point and an advance passes one.  An
advance past the calendar is the last one that is needed, because all observations lie within. -/
theorem Runs.count_advance (positive : 0 < step) (h : Runs step l turns final)
    (hcalendar : ∀ o ∈ l.left, o.time.inCalendar = true) :
    turns.count .advance = passedCount step l.cursor l.left := by
  induction h with
  | finished => rfl
  | @record cursor seen rows o rest turns final hreached _ ih =>
      have hnone : pointCount step cursor o.time = 0 := by
        rw [← pointCount_pos_iff positive] at hreached
        omega
      have hrest := ih (fun b hb => hcalendar b (List.mem_cons_of_mem o hb))
      have hskip : (Turn.record :: turns).count .advance = turns.count .advance :=
        List.count_cons_of_ne (by decide)
      rw [hskip, hrest, passedCount, hnone, Nat.zero_max]
  | @advance cursor seen rows o rest turns final hbefore _ _ ih =>
      have hsome := passedCount_pos_of_before positive hbefore rest
      have hnext := passedCount_next positive cursor (o :: rest)
      have hrest := ih hcalendar
      simp only at hrest ⊢
      rw [List.count_cons_self, hrest]
      omega
  | @overflow cursor seen rows o rest hbefore houtside =>
      have hsome := passedCount_pos_of_before positive hbefore rest
      have hnext := passedCount_next positive cursor (o :: rest)
      have hlast : passedCount step (cursor + step) (o :: rest) = 0 := by
        by_contra hmore
        obtain ⟨b, hb, hlt⟩ := (lt_passedCount_iff positive).mp (Nat.pos_of_ne_zero hmore)
        rw [Int.natCast_zero, Int.zero_mul, Int.add_zero] at hlt
        exact Instant.not_ofSeconds_lt_of_endSecond_le (hcalendar b hb) houtside hlt
      simp only [List.count_singleton_self]
      omega

/-- The grid of observations is there exactly if the run of its loop has an end within the
calendar, and has the rows of that end. -/
theorem Runs.ofObservations_eq (hstep : 0 < stepHours) (hne : observations ≠ [])
    (h : Runs (stepHours * secondsPerHour) (start observations) turns final) :
    ofObservations stepHours observations =
      final.elim (.error (.abort .calendarEnd))
        (fun l => .ok ⟨columnsOf observations, stepHours, l.rows⟩) := by
  have hpositive : 0 < stepHours * secondsPerHour := Nat.mul_pos hstep (by decide)
  have hsweep := h.sweep_eq hpositive
  simp only [start, List.nil_append] at hsweep
  rw [ofObservations_eq_sweep hstep hne]
  cases hswept : sweep (stepHours * secondsPerHour) hpositive (gridStart observations)
      (nothingSeen (columnsOf observations)) (inOrder observations) with
  | none =>
      rw [hswept, Option.map_none, eq_comm, Option.map_eq_none_iff] at hsweep
      rw [hsweep, Option.elim_none, Option.elim_none]
  | some swept =>
      rw [hswept, Option.map_some, eq_comm, Option.map_eq_some_iff] at hsweep
      obtain ⟨l, rfl, hl⟩ := hsweep
      rw [Option.elim_some, Option.elim_some, (Prod.mk.inj hl).2]

end Loop

/-! ### The loop over observations -/

/-- How the loop over observations ends, if its cursor goes on `n` times. -/
structure Halts (stepHours : Nat) (observations : List Observation) (n : Nat) : Prop where
  start_inCalendar : (Instant.ofSeconds (gridStart observations)).inCalendar = true
  mem_columns : ∀ o ∈ observations, o.name ∈ columnsOf observations
  /-- After fewer steps the cursor would still be before the last observation. -/
  least : ∃ last, (observations.map Observation.time).max? = some last ∧
    IsLeast {k : Nat | last ≤ Instant.ofSeconds
      (gridStart observations + k * (stepHours * secondsPerHour : Nat))} n
  /-- There is one whole run, and the grid has the rows at its end. -/
  run : ∃ turns final, (Loop.start observations).Runs (stepHours * secondsPerHour) turns final ∧
    turns.count .advance = n ∧
    ofObservations stepHours observations =
      final.elim (.error (.abort .calendarEnd))
        (fun l => .ok ⟨columnsOf observations, stepHours, l.rows⟩) ∧
    ∀ turns' final',
      (Loop.start observations).Runs (stepHours * secondsPerHour) turns' final' →
      turns' = turns ∧ final' = final
  abort_iff : ∀ a, ofObservations stepHours observations = .error (.abort a) ↔
    a = .calendarEnd ∧
      Instant.endSecond ≤ gridStart observations + n * (stepHours * secondsPerHour : Nat)
  exists_grid :
    gridStart observations + n * (stepHours * secondsPerHour : Nat) < Instant.endSecond →
    ∃ g, ofObservations stepHours observations = .ok g

/-- The points that are passed are those before the last observation. -/
theorem isLeast_gridCount (hstep : 0 < stepHours)
    (hlast : (observations.map Observation.time).max? = some t) :
    IsLeast {k : Nat | t ≤ Instant.ofSeconds
      (gridStart observations + k * (stepHours * secondsPerHour : Nat))}
      (gridCount stepHours observations) := by
  have hpassed : ∀ k : Nat, k < gridCount stepHours observations ↔ Instant.ofSeconds
      (gridStart observations + k * (stepHours * secondsPerHour : Nat)) < t := by
    intro k
    rw [lt_gridCount_iff hstep, lt_max?_iff hlast]
  constructor
  · have hend := (hpassed (gridCount stepHours observations)).not.mp (lt_irrefl _)
    exact not_lt.mp hend
  · intro k hk
    rw [← not_lt, hpassed]
    exact not_lt.mpr hk

/-- The first grid point lies within the calendar if the observations do. -/
theorem inCalendar_gridStart (hne : observations ≠ [])
    (hcalendar : ∀ o ∈ observations, o.time.inCalendar = true) :
    (Instant.ofSeconds (gridStart observations)).inCalendar = true := by
  obtain ⟨first, -, hfirst, -⟩ := exists_time_bounds hne
  obtain ⟨o, ho, rfl⟩ := List.mem_map.mp (List.min?_eq_some_iff.mp hfirst).1
  have hstart : gridStart observations = o.time.midnight := by rw [gridStart, hfirst]
  rw [hstart]
  exact Instant.inCalendar_midnight (hcalendar o ho)

/-- Without any advance the cursor stays at the first grid point, which is in the calendar. -/
theorem fits_iff_gridEnd_lt
    (hstart : (Instant.ofSeconds (gridStart observations)).inCalendar = true) :
    Fits stepHours observations ↔ gridEnd stepHours observations < Instant.endSecond := by
  have hinside := (Instant.inCalendar_ofSeconds_iff _).mp hstart
  constructor
  · rintro (hzero | hend)
    · rw [gridEnd, hzero, Int.natCast_zero, Int.zero_mul, Int.add_zero]
      exact hinside.2
    · exact hend
  · exact Or.inr

theorem ofObservations_eq_abort_iff (hstep : 0 < stepHours) (hne : observations ≠ [])
    (hstart : (Instant.ofSeconds (gridStart observations)).inCalendar = true) (a : Abort) :
    ofObservations stepHours observations = .error (.abort a) ↔
      a = .calendarEnd ∧ Instant.endSecond ≤ gridEnd stepHours observations := by
  rw [ofObservations_eq hstep hne, ← not_lt, ← fits_iff_gridEnd_lt hstart]
  by_cases hfits : Fits stepHours observations
  · rw [if_pos hfits]
    constructor
    · intro h
      cases h
    · intro h
      exact absurd hfits h.2
  · rw [if_neg hfits]
    constructor
    · intro h
      cases h
      exact ⟨rfl, hfits⟩
    · rintro ⟨rfl, -⟩
      rfl

/-- **Termination.**  The loop over observations within the calendar ends after a number of
advances that is known beforehand, and only the calendar can stop it from making a grid. -/
theorem ofObservations_halts (hstep : 0 < stepHours) (hne : observations ≠ [])
    (hcalendar : ∀ o ∈ observations, o.time.inCalendar = true) :
    ∃ n, Halts stepHours observations n := by
  have hpositive : 0 < stepHours * secondsPerHour := Nat.mul_pos hstep (by decide)
  have hstart := inCalendar_gridStart hne hcalendar
  refine ⟨gridCount stepHours observations, hstart, ?columns, ?least, ?run, ?abort, ?grid⟩
  case columns =>
    intro o ho
    exact mem_columnsOf.mpr ⟨o, ho, rfl⟩
  case least =>
    obtain ⟨-, last, -, hlast⟩ := exists_time_bounds hne
    exact ⟨last, hlast, isLeast_gridCount hstep hlast⟩
  case run =>
    obtain ⟨turns, final, hruns⟩ := Loop.exists_runs hpositive (gridStart observations)
      (nothingSeen (columnsOf observations)) [] (inOrder observations)
    have hsorted : ∀ o ∈ inOrder observations, o.time.inCalendar = true := by
      intro o ho
      exact hcalendar o (mem_inOrder.mp ho)
    have hadvances : turns.count .advance = gridCount stepHours observations := by
      rw [hruns.count_advance hpositive hsorted, passedCount_inOrder hpositive, gridCount]
    refine ⟨turns, final, hruns, hadvances, hruns.ofObservations_eq hstep hne, ?_⟩
    intro turns' final' hruns'
    exact hruns.unique hruns'
  case abort => exact ofObservations_eq_abort_iff hstep hne hstart
  case grid =>
    intro hend
    rw [ofObservations_eq hstep hne, if_pos ((fits_iff_gridEnd_lt hstart).mpr hend)]
    exact ⟨_, rfl⟩

/-- Prices of the last evening of the calendar, the last of them in a leap second. -/
def eveningPrices : List Observation :=
  [⟨⟨Instant.endSecond - 1, 1500000000⟩, 2.0, ⟨"a", "x", "z"⟩⟩,
    ⟨⟨Instant.endSecond - 9000, 0⟩, 1.0, ⟨"a", "x", "z"⟩⟩]

/-- The loop over the evening prices ends too. -/
theorem ofObservations_halts_eveningPrices :
    0 < 5 ∧ eveningPrices ≠ [] ∧ (∀ o ∈ eveningPrices, o.time.inCalendar = true) ∧
      ∃ n, Halts 5 eveningPrices n := by
  have hstep : 0 < 5 := by decide
  have hne : eveningPrices ≠ [] := List.cons_ne_nil _ _
  have hcalendar : ∀ o ∈ eveningPrices, o.time.inCalendar = true := by decide
  exact ⟨hstep, hne, hcalendar, ofObservations_halts hstep hne hcalendar⟩

end SpotForecast.Grid
