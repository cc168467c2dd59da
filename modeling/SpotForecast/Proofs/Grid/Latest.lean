import SpotForecast.Grid.Sweep
import SpotForecast.Proofs.Calendar.Order

/-!
# The latest observation of a list

Among observations the latest one has the greatest time; of several with that time the last one in
the list counts.  `LatestOf` says this of a list in any order.  The sweep works on the list that
`inOrder` gives instead, and there the same observation stands at the end
(`getLast?_inOrder_eq_some_iff`), because the sort keeps observations of one time in their order.

* `inOrder_cons` puts one more observation before those that are not earlier.
* `filter_inOrder` exchanges sorting with leaving observations out.
-/

namespace SpotForecast.Grid

/-- An observation is the latest of a list: nothing before it is later, and everything after it is
earlier. -/
def LatestOf (o : Observation) (observations : List Observation) : Prop :=
  ∃ before after, observations = before ++ o :: after ∧
    (∀ b ∈ before, b.time ≤ o.time) ∧ ∀ a ∈ after, a.time < o.time

/-- Sorting keeps the observations. -/
theorem inOrder_perm (observations : List Observation) :
    (inOrder observations).Perm observations :=
  List.mergeSort_perm _ _

/-- Sorting keeps what belongs to the list. -/
@[simp] theorem mem_inOrder {o : Observation} {observations : List Observation} :
    o ∈ inOrder observations ↔ o ∈ observations :=
  (inOrder_perm observations).mem_iff

/-- Nothing is sorted to nothing. -/
@[simp] theorem inOrder_nil : inOrder [] = [] :=
  List.mergeSort_nil

/-- Only an empty list is sorted to an empty one. -/
theorem inOrder_eq_nil_iff {observations : List Observation} :
    inOrder observations = [] ↔ observations = [] := by
  constructor
  · intro h
    exact (h ▸ inOrder_perm observations).nil_eq.symm
  · rintro rfl
    exact inOrder_nil

/-- The order of times that observations are sorted by is transitive. -/
theorem time_trans (a b c : Observation) (hab : decide (a.time ≤ b.time) = true)
    (hbc : decide (b.time ≤ c.time) = true) : decide (a.time ≤ c.time) = true := by
  simp only [decide_eq_true_eq] at hab hbc ⊢
  exact le_trans hab hbc

/-- The order of times that observations are sorted by is total. -/
theorem time_total (a b : Observation) :
    (decide (a.time ≤ b.time) || decide (b.time ≤ a.time)) = true := by
  simpa using le_total a.time b.time

/-- Sorted observations are in the order of their times. -/
theorem inOrder_pairwise (observations : List Observation) :
    (inOrder observations).Pairwise (fun a b => a.time ≤ b.time) := by
  have hsorted := List.pairwise_mergeSort time_trans time_total observations
  exact hsorted.imp (fun h => by simpa using h)

/-- **Insertion.**  One more observation in front is sorted in behind the earlier ones and before
all others; those of its own time stay behind it. -/
theorem inOrder_cons (o : Observation) (rest : List Observation) :
    ∃ earlier others, inOrder (o :: rest) = earlier ++ o :: others ∧
      inOrder rest = earlier ++ others ∧
      (∀ b ∈ earlier, b.time < o.time) ∧ ∀ b ∈ others, o.time ≤ b.time := by
  obtain ⟨earlier, others, hcons, hrest, hbefore⟩ :=
    List.mergeSort_cons time_trans time_total o rest
  refine ⟨earlier, others, hcons, hrest, ?_, ?_⟩
  · intro b hb
    have := hbefore b hb
    simpa using this
  · intro b hb
    have hsorted := inOrder_pairwise (o :: rest)
    rw [inOrder, hcons] at hsorted
    have htail := (List.pairwise_append.mp hsorted).2.1
    exact List.rel_of_pairwise_cons htail hb

/-- Two ways to cut a list into a part inside a class and a part outside it are the same. -/
theorem append_inj_of_class {p : Observation → Bool} {xs ys xs' ys' : List Observation}
    (h : xs ++ ys = xs' ++ ys') (hxs : ∀ o ∈ xs, p o) (hxs' : ∀ o ∈ xs', p o)
    (hys : ∀ o ∈ ys, ¬p o) (hys' : ∀ o ∈ ys', ¬p o) : xs = xs' ∧ ys = ys' := by
  have hinside : (xs ++ ys).filter p = xs := by
    rw [List.filter_append, List.filter_eq_self.mpr hxs, List.filter_eq_nil_iff.mpr hys,
      List.append_nil]
  have hinside' : (xs' ++ ys').filter p = xs' := by
    rw [List.filter_append, List.filter_eq_self.mpr hxs', List.filter_eq_nil_iff.mpr hys',
      List.append_nil]
  have hfront : xs = xs' := hinside.symm.trans ((congrArg (List.filter p) h).trans hinside')
  subst hfront
  exact ⟨rfl, List.append_cancel_left h⟩

/-- Sorting and then leaving observations out is leaving them out and then sorting. -/
theorem filter_inOrder (p : Observation → Bool) (observations : List Observation) :
    (inOrder observations).filter p = inOrder (observations.filter p) := by
  induction observations with
  | nil => simp
  | cons o rest ih =>
      obtain ⟨earlier, others, hcons, hrest, hearlier, hothers⟩ := inOrder_cons o rest
      rw [hrest, List.filter_append] at ih
      rw [hcons, List.filter_append]
      by_cases ho : p o
      · obtain ⟨earlier', others', hcons', hrest', hearlier', hothers'⟩ :=
          inOrder_cons o (rest.filter p)
        rw [List.filter_cons_of_pos ho, List.filter_cons_of_pos ho, hcons']
        have hparts := append_inj_of_class (p := fun b => decide (b.time < o.time))
          (ih.trans hrest')
          (fun b hb => by simpa using hearlier b (List.mem_filter.mp hb).1)
          (fun b hb => by simpa using hearlier' b hb)
          (fun b hb => by simpa using hothers b (List.mem_filter.mp hb).1)
          (fun b hb => by simpa using hothers' b hb)
        rw [hparts.1, hparts.2]
      · rw [List.filter_cons_of_neg ho, List.filter_cons_of_neg ho, ih]

/-- A list has only one latest observation. -/
theorem LatestOf.unique {o o' : Observation} {observations : List Observation}
    (h : LatestOf o observations) (h' : LatestOf o' observations) : o = o' := by
  obtain ⟨before, after, rfl, hbefore, hafter⟩ := h
  obtain ⟨before', after', heq, hbefore', hafter'⟩ := h'
  rcases List.append_eq_append_iff.mp heq with ⟨gap, hgap, hrest⟩ | ⟨gap, hgap, hrest⟩
  · cases gap with
    | nil => exact (List.cons.inj hrest).1
    | cons x gap =>
        obtain ⟨rfl, hafter_eq⟩ := List.cons.inj hrest
        have hle : o.time ≤ o'.time := hbefore' o (by simp [hgap])
        have hlt : o'.time < o.time := hafter o' (by simp [hafter_eq])
        exact absurd hle (not_le_of_gt hlt)
  · cases gap with
    | nil => exact (List.cons.inj hrest).1.symm
    | cons x gap =>
        obtain ⟨rfl, hafter_eq⟩ := List.cons.inj hrest
        have hle : o'.time ≤ o.time := hbefore o' (by simp [hgap])
        have hlt : o.time < o'.time := hafter' o (by simp [hafter_eq])
        exact absurd hle (not_le_of_gt hlt)

/-- The last of the sorted observations is the latest one. -/
theorem latestOf_of_getLast?_inOrder {o : Observation} {observations : List Observation}
    (h : (inOrder observations).getLast? = some o) : LatestOf o observations := by
  induction observations with
  | nil => simp [inOrder] at h
  | cons first rest ih =>
      obtain ⟨earlier, others, hcons, hrest, hearlier, hothers⟩ := inOrder_cons first rest
      rw [hcons, List.getLast?_append, List.getLast?_cons] at h
      cases hlast : others.getLast? with
      | none =>
          -- everything that follows is earlier, so the first observation is the latest
          rw [List.getLast?_eq_none_iff] at hlast
          subst hlast
          simp only [List.getLast?_nil, Option.getD_none, Option.some_or, Option.some.injEq] at h
          subst h
          refine ⟨[], rest, rfl, by simp, ?_⟩
          intro a ha
          apply hearlier
          rw [← mem_inOrder, hrest, List.append_nil] at ha
          exact ha
      | some last =>
          simp only [hlast, Option.getD_some, Option.some_or, Option.some.injEq] at h
          subst h
          obtain ⟨before, after, heq, hbefore, hafter⟩ := ih (by simp [hrest, hlast])
          refine ⟨first :: before, after, by simp [heq], ?_, hafter⟩
          intro b hb
          rcases List.mem_cons.mp hb with rfl | hb
          · exact hothers last (List.mem_of_getLast? hlast)
          · exact hbefore b hb

/-- **The end of the sorted list is the latest observation.** -/
theorem getLast?_inOrder_eq_some_iff {o : Observation} {observations : List Observation} :
    (inOrder observations).getLast? = some o ↔ LatestOf o observations := by
  refine ⟨latestOf_of_getLast?_inOrder, fun h => ?_⟩
  have hne : inOrder observations ≠ [] := by
    obtain ⟨before, after, rfl, -⟩ := h
    rw [ne_eq, inOrder_eq_nil_iff]
    simp
  obtain ⟨o', ho'⟩ := Option.isSome_iff_exists.mp (List.getLast?_isSome.mpr hne)
  rw [ho', h.unique (latestOf_of_getLast?_inOrder ho')]

end SpotForecast.Grid
