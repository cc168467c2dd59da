import SpotForecast.Proofs.Grid.Sweep

/-!
# Observations in another order

Two lists are `Reordered` if at every time they have the same observations in the same order; how
observations of different times are mixed does not matter.  These are just the lists that become
the same when they are sorted by time (`inOrder_eq_iff`), and a grid shows no more of them
(`Reordered.ofObservations_eq`).

A grid shows even less.  Lists are `Shuffled` if they have the same observations and those of one
name and one time are in the same order.  Sorting may leave such lists different, because it keeps
observations of different names at one time as they are; then the sweep passes through other states.
But no row is made between observations of one time, and up to a grid point every column has the
same last price (`Shuffled.lastPrice_upTo_eq`).
-/

namespace SpotForecast.Grid

variable {xs ys zs : List Observation} {a b o : Observation}

/-- At every time two lists have the same observations, in the same order. -/
def Reordered (xs ys : List Observation) : Prop :=
  ∀ t, xs.filter (fun o => o.time = t) = ys.filter (fun o => o.time = t)

theorem Reordered.refl (xs : List Observation) : Reordered xs xs :=
  fun _ => rfl

theorem Reordered.symm (h : Reordered xs ys) : Reordered ys xs :=
  fun t => (h t).symm

/-- Two observations of different times may change places. -/
theorem Reordered.swap (h : a.time ≠ b.time) (rest : List Observation) :
    Reordered (a :: b :: rest) (b :: a :: rest) := by
  intro t
  by_cases ha : a.time = t
  · have hb : ¬b.time = t := fun hb => h (ha.trans hb.symm)
    simp [ha, hb]
  · simp [List.filter_cons, ha]

/-- Two lists that are reordered have the same observations. -/
theorem Reordered.mem_iff (h : Reordered xs ys) : o ∈ xs ↔ o ∈ ys := by
  have hfilter : o ∈ xs.filter (fun a => a.time = o.time) ↔
      o ∈ ys.filter (fun a => a.time = o.time) := by
    rw [h o.time]
  simpa using hfilter

/-- What belongs to one time is in order already. -/
theorem inOrder_filter_time (t : Instant) (xs : List Observation) :
    inOrder (xs.filter (fun o => o.time = t)) = xs.filter (fun o => o.time = t) := by
  refine List.mergeSort_of_pairwise (List.pairwise_of_forall_mem_list fun a ha b hb => ?_)
  have hat : a.time = t := by simpa using (List.mem_filter.mp ha).2
  have hbt : b.time = t := by simpa using (List.mem_filter.mp hb).2
  simp [hat, hbt]

/-- Sorting is a reordering. -/
theorem reordered_inOrder (xs : List Observation) : Reordered (inOrder xs) xs := by
  intro t
  rw [filter_inOrder, inOrder_filter_time]

theorem Reordered.head_le (h : Reordered (a :: xs) (b :: ys))
    (hxs : (a :: xs).Pairwise (fun a b => a.time ≤ b.time)) : a.time ≤ b.time := by
  rcases List.mem_cons.mp (h.mem_iff.mpr List.mem_cons_self) with hb | hb
  · exact le_of_eq (congrArg Observation.time hb.symm)
  · exact List.rel_of_pairwise_cons hxs hb

/-- Reordered lists that begin at one time begin with one observation. -/
theorem Reordered.head_eq (h : Reordered (a :: xs) (b :: ys)) (htime : b.time = a.time) :
    a = b := by
  have hhead := h a.time
  rw [List.filter_cons_of_pos (by simp)] at hhead
  rw [List.filter_cons_of_pos (by simpa using htime)] at hhead
  exact (List.cons.inj hhead).1

theorem Reordered.of_cons (h : Reordered (a :: xs) (a :: ys)) : Reordered xs ys := by
  intro t
  have ht := h t
  rw [List.filter_cons, List.filter_cons] at ht
  split at ht
  · exact (List.cons.inj ht).2
  · exact ht

/-- Lists in the order of their times that are reordered are the same. -/
theorem Reordered.eq_of_pairwise (h : Reordered xs ys)
    (hxs : xs.Pairwise (fun a b => a.time ≤ b.time))
    (hys : ys.Pairwise (fun a b => a.time ≤ b.time)) : xs = ys := by
  induction xs generalizing ys with
  | nil =>
      cases ys with
      | nil => rfl
      | cons b ys => cases h.mem_iff.mpr List.mem_cons_self
  | cons a xs ih =>
      cases ys with
      | nil => cases h.mem_iff.mp List.mem_cons_self
      | cons b ys =>
          -- both lists begin with the first observation of the earliest time
          have htime : b.time = a.time := le_antisymm (h.symm.head_le hys) (h.head_le hxs)
          obtain rfl := h.head_eq htime
          rw [ih h.of_cons hxs.of_cons hys.of_cons]

/-- **Sorting.**  Just the reordered lists become the same when they are sorted. -/
theorem inOrder_eq_iff : inOrder xs = inOrder ys ↔ Reordered xs ys := by
  constructor
  · intro h t
    rw [← reordered_inOrder xs t, ← reordered_inOrder ys t, h]
  · intro h
    refine Reordered.eq_of_pairwise (fun t => ?_) (inOrder_pairwise xs) (inOrder_pairwise ys)
    rw [reordered_inOrder xs t, reordered_inOrder ys t, h t]

/-- A grid does not show how observations of different times were mixed. -/
theorem Reordered.ofObservations_eq (h : Reordered xs ys) (stepHours : Nat) :
    ofObservations stepHours xs = ofObservations stepHours ys := by
  simp only [ofObservations, inOrder_eq_iff.mpr h]

theorem Reordered.isEmpty_eq (h : Reordered xs ys) : xs.isEmpty = ys.isEmpty := by
  have hempty : xs = [] ↔ ys = [] := by
    rw [← inOrder_eq_nil_iff, inOrder_eq_iff.mpr h, inOrder_eq_nil_iff]
  rw [Bool.eq_iff_iff, List.isEmpty_iff, List.isEmpty_iff, hempty]

/-! ### Columns by themselves -/

/-- Two lists have the same observations, and those of one name and one time in the same order. -/
structure Shuffled (xs ys : List Observation) : Prop where
  perm : xs.Perm ys
  ties : ∀ name t, xs.filter (fun o => o.name = name ∧ o.time = t) =
    ys.filter (fun o => o.name = name ∧ o.time = t)

theorem Shuffled.trans (h : Shuffled xs ys) (h' : Shuffled ys zs) : Shuffled xs zs :=
  ⟨h.perm.trans h'.perm, fun name t => (h.ties name t).trans (h'.ties name t)⟩

theorem Shuffled.cons (h : Shuffled xs ys) (o : Observation) : Shuffled (o :: xs) (o :: ys) := by
  refine ⟨h.perm.cons o, fun name t => ?_⟩
  rw [List.filter_cons, List.filter_cons, h.ties name t]

/-- Two observations may change places if their names or their times are different. -/
theorem Shuffled.swap {a b : Observation} (h : a.name ≠ b.name ∨ a.time ≠ b.time)
    (rest : List Observation) : Shuffled (a :: b :: rest) (b :: a :: rest) := by
  refine ⟨List.Perm.swap b a rest, fun name t => ?_⟩
  by_cases ha : a.name = name ∧ a.time = t
  · have hb : ¬(b.name = name ∧ b.time = t) := by
      rintro ⟨hname, htime⟩
      rcases h with h | h
      · exact h (ha.1.trans hname.symm)
      · exact h (ha.2.trans htime.symm)
    simp [ha, hb]
  · simp [List.filter_cons, ha]

/-- In a column, only observations of one time have an order that counts. -/
theorem Shuffled.reordered (h : Shuffled xs ys) (name : String) :
    Reordered (xs.filter (fun o => decide (o.name = name)))
      (ys.filter (fun o => decide (o.name = name))) := by
  intro t
  have hties := h.ties name t
  simp only [List.filter_filter]
  simpa only [Bool.decide_and, Bool.and_comm] using hties

/-- **Meeting again.**  Up to a grid point, both lists have the same last price of every column. -/
theorem Shuffled.lastPrice_upTo_eq (h : Shuffled xs ys) (second : Int) :
    lastPrice (upTo second (inOrder xs)) = lastPrice (upTo second (inOrder ys)) := by
  have hcolumn : ∀ zs name, (upTo second (inOrder zs)).filter (fun o => decide (o.name = name)) =
      upTo second (inOrder (zs.filter (fun o => decide (o.name = name)))) := by
    intro zs name
    rw [upTo, List.filter_comm, filter_inOrder, upTo]
  funext name
  have hsorted := inOrder_eq_iff.mpr (h.reordered name)
  rw [lastPrice, lastPrice, hcolumn, hcolumn, hsorted]

/-- The grids of lists with the same observations begin at the same point. -/
theorem gridStart_perm (h : xs.Perm ys) : gridStart xs = gridStart ys := by
  have hmin : (xs.map Observation.time).min? = (ys.map Observation.time).min? := by
    apply Option.ext
    intro t
    simp only [List.min?_eq_some_iff, (h.map Observation.time).mem_iff]
  rw [gridStart, gridStart, hmin]

/-- Sweeps over lists with the same observations pass the same number of points. -/
theorem gridCount_perm {stepHours : Nat} (hstep : 0 < stepHours) (h : xs.Perm ys) :
    gridCount stepHours xs = gridCount stepHours ys := by
  have hpositive : 0 < stepHours * secondsPerHour := Nat.mul_pos hstep (by decide)
  apply eq_of_forall_lt_iff
  intro k
  rw [gridCount, gridCount, gridStart_perm h, lt_passedCount_iff hpositive,
    lt_passedCount_iff hpositive]
  simp only [h.mem_iff]

theorem Shuffled.gridRows_eq {stepHours : Nat} (hstep : 0 < stepHours) (h : Shuffled xs ys) :
    gridRows stepHours xs = gridRows stepHours ys := by
  simp only [gridRows, rowOf?, gridStart_perm h.perm, gridCount_perm hstep h.perm,
    columnsOf_perm h.perm, h.lastPrice_upTo_eq]

/-- **Shuffling.**  The result does not depend on the order in which observations are given, as long
as those of one name and one time keep theirs: it is the same grid, the same fault or the same
abort. -/
theorem ofObservations_eq_of_shuffled (h : Shuffled xs ys) (stepHours : Nat) :
    ofObservations stepHours xs = ofObservations stepHours ys := by
  by_cases hstep : 0 < stepHours
  · by_cases hxs : xs = []
    · subst hxs
      rw [h.perm.nil_eq]
    · have hys : ys ≠ [] := by
        rintro rfl
        exact hxs h.perm.eq_nil
      have hcount := gridCount_perm hstep h.perm
      have hend : gridEnd stepHours xs = gridEnd stepHours ys := by
        rw [gridEnd, gridStart_perm h.perm, hcount]
        rfl
      have hfits : Fits stepHours xs ↔ Fits stepHours ys := by rw [Fits, Fits, hcount, hend]
      simp only [ofObservations_eq hstep hxs, ofObservations_eq hstep hys, hfits,
        h.gridRows_eq hstep, columnsOf_perm h.perm]
  · simp only [ofObservations, dif_neg hstep]

/-- Two columns that are observed at the same time, and one of them twice at another time. -/
def tiedPrices : List Observation :=
  [⟨⟨0, 0⟩, 1.0, ⟨"a", "x", "z"⟩⟩, ⟨⟨0, 0⟩, 2.0, ⟨"b", "x", "z"⟩⟩,
    ⟨⟨3600, 0⟩, 3.0, ⟨"a", "x", "z"⟩⟩, ⟨⟨3600, 0⟩, 4.0, ⟨"a", "x", "z"⟩⟩]

/-- The tied prices in another order. -/
def shuffledPrices : List Observation :=
  [⟨⟨0, 0⟩, 2.0, ⟨"b", "x", "z"⟩⟩, ⟨⟨3600, 0⟩, 3.0, ⟨"a", "x", "z"⟩⟩,
    ⟨⟨0, 0⟩, 1.0, ⟨"a", "x", "z"⟩⟩, ⟨⟨3600, 0⟩, 4.0, ⟨"a", "x", "z"⟩⟩]

/-- The tied prices give the same in both orders, although sorting leaves them different. -/
theorem ofObservations_eq_of_shuffled_tiedPrices :
    Shuffled tiedPrices shuffledPrices ∧
      (∀ stepHours, ofObservations stepHours tiedPrices =
        ofObservations stepHours shuffledPrices) ∧
      inOrder tiedPrices ≠ inOrder shuffledPrices := by
  have hshuffled : Shuffled tiedPrices shuffledPrices :=
    (Shuffled.swap (Or.inl (by decide +kernel)) _).trans
      ((Shuffled.swap (Or.inr (by decide)) _).cons _)
  refine ⟨hshuffled, ofObservations_eq_of_shuffled hshuffled, ?_⟩
  rw [ne_eq, inOrder_eq_iff]
  intro h
  have hfirst := h ⟨0, 0⟩
  revert hfirst
  decide +kernel

end SpotForecast.Grid
