import Mathlib.Data.Nat.Basic
import Mathlib.Order.MinMax
import SpotForecast.Grid.Sweep
import SpotForecast.Proofs.Calendar.Order

/-!
# Grid points

The grid points from a cursor on are the cursor plus whole multiples of the step.  This file counts
those that a sweep passes.

* `pointCount` is the number of grid points before one instant (`lt_pointCount_iff`), and
  `passedCount` the number of those before some observation (`lt_passedCount_iff`).
* `advance_eq` says what the inner loop of the sweep does: it passes exactly these points, unless
  the last of its advances leaves the calendar.
-/

namespace SpotForecast.Grid

/-- The number of grid points from a cursor on that lie before an instant. -/
def pointCount (step : Nat) (cursor : Int) (t : Instant) : Nat :=
  ((t.nextSecond - cursor + step - 1) / step).toNat

/-- The number of grid points from a cursor on that lie before some observation. -/
def passedCount (step : Nat) (cursor : Int) : List Observation → Nat
  | [] => 0
  | o :: rest => max (pointCount step cursor o.time) (passedCount step cursor rest)

/-- The first grid points from a cursor on. -/
def points (step : Nat) (cursor : Int) (count : Nat) : List Int :=
  (List.range count).map (fun k : Nat => cursor + k * step)

variable {step : Nat}

/-- Some steps and then some more. -/
theorem add_natCast_mul (cursor : Int) (m n step : Nat) :
    cursor + ((m + n : Nat) : Int) * step = cursor + m * step + n * step := by
  rw [Int.natCast_add, Int.add_mul, Int.add_assoc]

/-- Going on for `m + n` steps stays below a limit if going on for `m` of them does, and then for
the other ones. -/
theorem below_add_iff {cursor limit : Int} {m n : Nat} :
    (m + n = 0 ∨ cursor + ((m + n : Nat) : Int) * step < limit) ↔
      (m = 0 ∨ cursor + m * step < limit) ∧
        (n = 0 ∨ cursor + m * step + n * step < limit) := by
  have hlater : (0 : Int) ≤ n * step := Int.mul_nonneg (Int.natCast_nonneg n) (Int.natCast_nonneg _)
  rw [add_natCast_mul]
  by_cases hn : n = 0
  · subst hn
    simp
  · omega

theorem below_succ_iff {cursor limit : Int} {n : Nat} :
    (n + 1 = 0 ∨ cursor + ((n + 1 : Nat) : Int) * step < limit) ↔
      cursor + step < limit ∧ (n = 0 ∨ cursor + step + n * step < limit) := by
  rw [Nat.add_comm n 1, below_add_iff]
  simp

/-- The grid point with a number is counted exactly if it lies before the instant. -/
theorem lt_pointCount_iff (positive : 0 < step) {cursor : Int} {t : Instant} {k : Nat} :
    k < pointCount step cursor t ↔ Instant.ofSeconds (cursor + k * step) < t := by
  have hstep : (0 : Int) < step := by omega
  have hcount : k < pointCount step cursor t ↔
      ((k : Int) + 1) * step ≤ t.nextSecond - cursor + step - 1 := by
    rw [pointCount, Int.lt_toNat, ← Int.add_one_le_iff, Int.le_ediv_iff_mul_le hstep]
  rw [hcount, Instant.ofSeconds_lt_iff, Int.add_mul, Int.one_mul]
  omega

/-- The grid point with a number is passed exactly if it lies before some observation. -/
theorem lt_passedCount_iff (positive : 0 < step) {cursor : Int} {observations : List Observation}
    {k : Nat} :
    k < passedCount step cursor observations ↔
      ∃ o ∈ observations, Instant.ofSeconds (cursor + k * step) < o.time := by
  induction observations with
  | nil => simp [passedCount]
  | cons o rest ih =>
      rw [passedCount, lt_max_iff, ih, lt_pointCount_iff positive]
      simp

/-- From a later grid point on, fewer points lie before an instant. -/
theorem pointCount_add (positive : 0 < step) (cursor : Int) (t : Instant) (m : Nat) :
    pointCount step (cursor + m * step) t = pointCount step cursor t - m := by
  apply eq_of_forall_lt_iff
  intro k
  rw [lt_pointCount_iff positive, ← add_natCast_mul, ← lt_pointCount_iff positive]
  omega

/-- Some grid point lies before an instant exactly if the cursor does. -/
theorem pointCount_pos_iff (positive : 0 < step) {cursor : Int} {t : Instant} :
    0 < pointCount step cursor t ↔ Instant.ofSeconds cursor < t := by
  rw [lt_pointCount_iff positive, Int.natCast_zero, Int.zero_mul, Int.add_zero]

/-- From the next grid point on, one point less lies before an instant. -/
theorem pointCount_next (positive : 0 < step) (cursor : Int) (t : Instant) :
    pointCount step (cursor + step) t = pointCount step cursor t - 1 := by
  have hadd := pointCount_add positive cursor t 1
  rwa [Int.natCast_one, Int.one_mul] at hadd

/-- From a later grid point on, fewer points are passed. -/
theorem passedCount_add (positive : 0 < step) (cursor : Int) (observations : List Observation)
    (m : Nat) :
    passedCount step (cursor + m * step) observations =
      passedCount step cursor observations - m := by
  induction observations with
  | nil => simp [passedCount]
  | cons o rest ih =>
      rw [passedCount, passedCount, ih, pointCount_add positive]
      omega

/-- The points of a list are those before its head and then those from there on. -/
theorem passedCount_cons (positive : 0 < step) (cursor : Int) (o : Observation)
    (rest : List Observation) :
    passedCount step cursor (o :: rest) = pointCount step cursor o.time +
      passedCount step (cursor + pointCount step cursor o.time * step) rest := by
  rw [passedCount_add positive, passedCount]
  omega

/-- From the next grid point on, one point less is passed. -/
theorem passedCount_next (positive : 0 < step) (cursor : Int) (observations : List Observation) :
    passedCount step (cursor + step) observations = passedCount step cursor observations - 1 := by
  have hadd := passedCount_add positive cursor observations 1
  rwa [Int.natCast_one, Int.one_mul] at hadd

/-- Grid points continue from the point behind the first ones. -/
theorem points_add (step : Nat) (cursor : Int) (m n : Nat) :
    points step cursor (m + n) = points step cursor m ++ points step (cursor + m * step) n := by
  simp only [points, List.range_add, List.map_append, List.map_map]
  congr 1
  apply List.map_congr_left
  intro k _
  exact add_natCast_mul cursor m k step

/-- The first grid point is the cursor. -/
theorem points_succ (step : Nat) (cursor : Int) (n : Nat) :
    points step cursor (n + 1) = cursor :: points step (cursor + step) n := by
  rw [Nat.add_comm, points_add]
  simp [points]

/-- The grid points are the cursor plus multiples of the step. -/
theorem mem_points {cursor : Int} {n : Nat} {second : Int} :
    second ∈ points step cursor n ↔ ∃ k, k < n ∧ second = cursor + (k : Int) * step := by
  simp only [points, List.mem_map, List.mem_range]
  grind

/-- The grid point at a place is the cursor plus so many steps. -/
theorem eq_of_getElem?_points {cursor : Int} {n k : Nat} {second : Int}
    (h : (points step cursor n)[k]? = some second) : second = cursor + k * step := by
  rw [points, List.getElem?_map, Option.map_eq_some_iff] at h
  obtain ⟨j, hj, rfl⟩ := h
  obtain ⟨hlt, hplace⟩ := List.getElem?_eq_some_iff.mp hj
  rw [List.getElem_range] at hplace
  rw [hplace]

/-- Grid points ascend. -/
theorem points_pairwise (positive : 0 < step) (cursor : Int) (n : Nat) :
    (points step cursor n).Pairwise (· < ·) := by
  rw [points, List.pairwise_map]
  apply List.pairwise_lt_range.imp
  intro a b hab
  have hmul : (a : Int) * step < b * step :=
    Int.mul_lt_mul_of_pos_right (by omega) (by omega)
  omega

/-- **The inner loop.**  Advancing towards an instant passes the grid points before it, and ends
at the first one that is not before it.  It fails exactly if it passes some point and ends past
the calendar. -/
theorem advance_eq (positive : 0 < step) (t : Instant) (cursor : Int) (passed : List Int) :
    advance step positive t cursor passed =
      if pointCount step cursor t = 0 ∨
          cursor + pointCount step cursor t * step < Instant.endSecond then
        some (cursor + pointCount step cursor t * step,
          (points step cursor (pointCount step cursor t)).reverse ++ passed)
      else none := by
  induction hn : pointCount step cursor t generalizing cursor passed with
  | zero =>
      have hnot : ¬Instant.ofSeconds cursor < t := by
        rw [← pointCount_pos_iff positive]
        omega
      rw [advance, dif_neg hnot]
      simp [points]
  | succ n ih =>
      have hbefore : Instant.ofSeconds cursor < t := by
        rw [← pointCount_pos_iff positive]
        omega
      have hrest : pointCount step (cursor + step) t = n := by
        rw [pointCount_next positive]
        omega
      have hend : cursor + ((n + 1 : Nat) : Int) * step = cursor + step + n * step := by
        rw [Nat.add_comm, add_natCast_mul, Int.natCast_one, Int.one_mul]
      rw [advance, dif_pos hbefore]
      by_cases hpast : Instant.endSecond ≤ cursor + step
      · have houtside : ¬cursor + step < Instant.endSecond := Int.not_lt.mpr hpast
        simp only [if_pos hpast, below_succ_iff, houtside, false_and, if_false]
      · have hinside : cursor + step < Instant.endSecond := Int.not_le.mp hpast
        simp only [if_neg hpast, ih _ _ hrest, below_succ_iff, hinside, true_and]
        simp only [hend, points_succ, List.reverse_cons, List.append_assoc,
          List.singleton_append]

end SpotForecast.Grid
