import SpotForecast.Proofs.Grid.Reading
import SpotForecast.Proofs.Grid.RowCount

/-!
# Views of a grid

`slice` and `tail` keep rows of a grid that follow each other, whatever bounds they are given.  A
`View` is one of the two; some views, one after the other, lead from a grid to a part of it
(`isPart_viewed`).

`Sound` is what all parts of the grid of observations have in common: the columns ascend, every row
has a value for each of them, and the times of the rows are evenly spaced.  It holds of the whole
grid (`sound_ofObservations`), whose rows stand at grid points without a gap, and a part of a sound
grid is sound (`Sound.of_isPart`).
-/

namespace SpotForecast.Grid

/-- A way to keep a run of the rows. -/
inductive View where
  | slice (start stop : Nat)
  | tail (count : Nat)

def View.of (g : Grid) : View → Grid
  | .slice start stop => g.slice start stop
  | .tail count => g.tail count

/-- What is left of a grid by some views, one after the other. -/
def viewed (g : Grid) : List View → Grid
  | [] => g
  | v :: rest => (v.of g).viewed rest

/-- A grid has some rows of another one that follow each other there. -/
structure IsPart (g full : Grid) : Prop where
  columns : g.columns = full.columns
  stepHours : g.stepHours = full.stepHours
  rows : g.rows <:+: full.rows

variable {g g' full : Grid} {stepHours : Nat} {observations : List Observation} {i : Nat}
  {values : List Float}

/-! ### Parts -/

theorem IsPart.refl (g : Grid) : g.IsPart g :=
  ⟨rfl, rfl, List.infix_rfl⟩

theorem IsPart.trans (h : g'.IsPart g) (hfull : g.IsPart full) : g'.IsPart full :=
  ⟨h.columns.trans hfull.columns, h.stepHours.trans hfull.stepHours, h.rows.trans hfull.rows⟩

theorem isPart_slice (g : Grid) (start stop : Nat) : (g.slice start stop).IsPart g where
  columns := rfl
  stepHours := rfl
  rows := (List.drop_suffix _ _).isInfix.trans (List.take_prefix _ _).isInfix

theorem isPart_of (g : Grid) (v : View) : (v.of g).IsPart g := by
  cases v with
  | slice start stop => exact isPart_slice g start stop
  | tail count => exact isPart_slice g _ _

/-- **Views keep a part.** -/
theorem isPart_viewed (g : Grid) (views : List View) : (g.viewed views).IsPart g := by
  induction views generalizing g with
  | nil => exact IsPart.refl g
  | cons v rest ih => exact (ih (v.of g)).trans (isPart_of g v)

/-- The rows of a part are found in the whole grid, all by the same number of places later. -/
theorem IsPart.exists_offset (h : g.IsPart full) :
    ∃ offset : Nat, ∀ (n : Nat) (r : Row), g.rows[n]? = some r →
      full.rows[offset + n]? = some r := by
  obtain ⟨before, after, hrows⟩ := h.rows
  refine ⟨before.length, ?_⟩
  intro n r hr
  have hn : n < g.rows.length := (List.getElem?_eq_some_iff.mp hr).1
  have hbehind : (before ++ (g.rows ++ after))[before.length + n]? = (g.rows ++ after)[n]? := by
    rw [List.getElem?_append_right (Nat.le_add_right _ _), Nat.add_sub_cancel_left]
  rw [← hrows, List.append_assoc, hbehind, List.getElem?_append_left hn, hr]

/-! ### The last rows -/

theorem rows_tail (g : Grid) (count : Nat) :
    (g.tail count).rows = g.rows.drop (g.rowCount - count) := by
  rw [tail, slice, rowCount, List.take_length]

theorem rowCount_tail (g : Grid) (count : Nat) :
    (g.tail count).rowCount = min count g.rowCount := by
  rw [rowCount, rows_tail, List.length_drop, rowCount]
  omega

theorem getLast?_rows_tail {last : Row} (hm : 0 < m) (h : g.rows.getLast? = some last) :
    (g.tail m).rows.getLast? = some last := by
  have hpositive : 0 < g.rows.length :=
    List.length_pos_iff.mpr (List.getLast?_isSome.mp (h ▸ rfl))
  have hkept : ¬g.rows.length ≤ g.rowCount - m := by
    rw [rowCount]
    omega
  rw [rows_tail, List.getLast?_drop, if_neg hkept, h]

/-- The last rows of the last rows. -/
theorem tail_tail (g : Grid) (m n : Nat) : (g.tail m).tail n = g.tail (min m n) := by
  have hrows : ((g.tail m).tail n).rows = (g.tail (min m n)).rows := by
    have hplace : g.rowCount - m + (min m g.rowCount - n) = g.rowCount - min m n := by omega
    rw [rows_tail, rows_tail, rows_tail, rowCount_tail, List.drop_drop, hplace]
  have hgrid : ∀ count, g.tail count = ⟨g.columns, g.stepHours, (g.tail count).rows⟩ :=
    fun count => rfl
  rw [hgrid (min m n), ← hrows]
  rfl

theorem columnValues_tail (count : Nat) (h : g.columnValues i = some values) :
    (g.tail count).columnValues i = some (values.drop (g.rowCount - count)) := by
  rw [columnValues, mapM_eq_some_iff] at h ⊢
  rw [rows_tail]
  exact List.forall₂_drop _ h

/-! ### What all parts have in common -/

/-- The columns ascend, every row has a value in each of them, and the rows are evenly spaced. -/
structure Sound (g : Grid) : Prop where
  columns_ascending : g.columns.Pairwise (fun a b => Text.utf8 a < Text.utf8 b)
  rectangular : g.Rectangular
  time_eq : ∀ (n k : Nat) (r s : Row), g.rows[n]? = some r → g.rows[n + k]? = some s →
    s.time = Instant.ofSeconds (r.time.seconds + k * g.stepSeconds)

theorem Sound.of_isPart (hfull : full.Sound) (h : g.IsPart full) : g.Sound where
  columns_ascending := h.columns ▸ hfull.columns_ascending
  rectangular r hr := by
    rw [h.columns]
    exact hfull.rectangular r (h.rows.subset hr)
  time_eq n k r s hr hs := by
    obtain ⟨offset, hoffset⟩ := h.exists_offset
    have hlater := hoffset _ _ hs
    rw [← Nat.add_assoc] at hlater
    rw [stepSeconds, h.stepHours]
    exact hfull.time_eq (offset + n) k r s (hoffset n r hr) hlater

/-- **The whole grid is sound.**  Its rows stand at all grid points from the first one on at which
every column has been seen. -/
theorem sound_ofObservations (h : ofObservations stepHours observations = .ok g) : g.Sound := by
  have hrectangular := rectangular_ofObservations h
  obtain ⟨hstep, hne, -, rfl⟩ := ofObservations_eq_ok_iff.mp h
  obtain ⟨primed, hprimed⟩ := exists_primed hne
  have htimes := map_time_gridRows hstep hprimed
  -- the row at a place stands so many steps behind the first row
  have hpoint : ∀ (n : Nat) (r : Row), (gridRows stepHours observations)[n]? = some r →
      r.time = Instant.ofSeconds (gridStart observations +
        pointCount (stepHours * secondsPerHour) (gridStart observations) primed *
          (stepHours * secondsPerHour : Nat) + n * (stepHours * secondsPerHour : Nat)) := by
    intro n r hr
    have htime := congrArg (fun l => l[n]?) htimes
    simp only [List.getElem?_map, hr, Option.map_some] at htime
    obtain ⟨second, hsecond, htime⟩ := Option.map_eq_some_iff.mp htime.symm
    rw [← htime, eq_of_getElem?_points hsecond]
  refine ⟨(columnsOf_pairwise observations).imp Text.utf8_lt_iff.mpr, hrectangular, ?_⟩
  intro n k r s hr hs
  rw [hpoint _ _ hs, hpoint _ _ hr]
  simp only [Instant.ofSeconds, stepSeconds]
  rw [add_natCast_mul]

end SpotForecast.Grid
