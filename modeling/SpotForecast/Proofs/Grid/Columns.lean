import Mathlib.Data.List.Forall2
import Mathlib.Data.List.Sort
import Mathlib.Data.String.Basic
import SpotForecast.Grid.Sweep

/-!
# The columns of a grid

The columns are the different names among the observations, in ascending order
(`columnsOf_pairwise`, `mem_columnsOf`).  These two facts determine them, so the order of the
observations does not matter (`columnsOf_perm`).  A row has its values beside the columns, and a
column its values beside the rows; `mapM_eq_some_iff` is how both are read.
-/

namespace SpotForecast.Grid

/-- A name put into its place is there, and nothing else is new. -/
theorem mem_insertName {n name : String} {names : List String} :
    n ∈ insertName name names ↔ n = name ∨ n ∈ names := by
  induction names with
  | nil => simp [insertName]
  | cons first rest ih =>
      rw [insertName]
      split
      · simp
      · split
        · rename_i heq
          subst heq
          simp
        · rw [List.mem_cons, ih, List.mem_cons]
          tauto

/-- A name put into its place leaves the names ascending. -/
theorem insertName_pairwise {name : String} {names : List String}
    (h : names.Pairwise (· < ·)) : (insertName name names).Pairwise (· < ·) := by
  induction names with
  | nil => simp [insertName]
  | cons first rest ih =>
      obtain ⟨hfirst, hrest⟩ := List.pairwise_cons.mp h
      rw [insertName]
      split
      · rename_i hlt
        refine List.pairwise_cons.mpr ⟨?_, h⟩
        intro n hn
        rcases List.mem_cons.mp hn with rfl | hn
        · exact hlt
        · exact lt_trans hlt (hfirst n hn)
      · split
        · exact h
        · rename_i hnlt hne
          refine List.pairwise_cons.mpr ⟨?_, ih hrest⟩
          intro n hn
          rcases mem_insertName.mp hn with rfl | hn
          · exact lt_of_le_of_ne (not_lt.mp hnlt) (Ne.symm hne)
          · exact hfirst n hn

/-- The names of a fold are those put in and those that were there. -/
theorem mem_foldl_insertName {n : String} (names done : List String) :
    n ∈ names.foldl (fun done name => insertName name done) done ↔ n ∈ names ∨ n ∈ done := by
  induction names generalizing done with
  | nil => simp
  | cons name rest ih =>
      rw [List.foldl_cons, ih, mem_insertName, List.mem_cons]
      tauto

/-- Names put in one after the other ascend. -/
theorem foldl_insertName_pairwise (names : List String) {done : List String}
    (h : done.Pairwise (· < ·)) :
    (names.foldl (fun done name => insertName name done) done).Pairwise (· < ·) := by
  induction names generalizing done with
  | nil => exact h
  | cons name rest ih => exact ih (insertName_pairwise h)

/-- The columns ascend. -/
theorem columnsOf_pairwise (observations : List Observation) :
    (columnsOf observations).Pairwise (· < ·) :=
  foldl_insertName_pairwise _ List.Pairwise.nil

/-- The columns are the names of the observations. -/
theorem mem_columnsOf {name : String} {observations : List Observation} :
    name ∈ columnsOf observations ↔ ∃ o ∈ observations, o.name = name := by
  rw [columnsOf, distinctNames, mem_foldl_insertName]
  simp

/-- The order of the observations does not matter for the columns. -/
theorem columnsOf_perm {observations observations' : List Observation}
    (h : observations.Perm observations') :
    columnsOf observations = columnsOf observations' := by
  apply List.Pairwise.eq_of_mem_iff (columnsOf_pairwise _) (columnsOf_pairwise _)
  intro name
  simp only [mem_columnsOf, h.mem_iff]

/-- Values are read for all items exactly if one is read for each of them. -/
theorem mapM_eq_some_iff {α β : Type} {f : α → Option β} {items : List α} {values : List β} :
    items.mapM f = some values ↔ List.Forall₂ (fun a b => f a = some b) items values := by
  induction items generalizing values with
  | nil => simp [eq_comm]
  | cons a rest ih =>
      rw [List.mapM_cons]
      constructor
      · intro h
        obtain ⟨b, hb, h⟩ := Option.bind_eq_some_iff.mp h
        obtain ⟨bs, hbs, h⟩ := Option.bind_eq_some_iff.mp h
        obtain rfl : b :: bs = values := Option.some.inj h
        exact List.Forall₂.cons hb (ih.mp hbs)
      · intro h
        cases h with
        | cons hb hbs =>
            rw [hb, ih.mpr hbs]
            rfl

/-- Values are read for all items exactly if every item has one. -/
theorem exists_mapM_iff {α β : Type} {f : α → Option β} {items : List α} :
    (∃ values, items.mapM f = some values) ↔ ∀ a ∈ items, ∃ b, f a = some b := by
  simp only [mapM_eq_some_iff]
  induction items with
  | nil => simp
  | cons a rest ih =>
      rw [List.forall_mem_cons, ← ih]
      constructor
      · rintro ⟨values, hvalues⟩
        cases hvalues with
        | cons hb hbs => exact ⟨⟨_, hb⟩, _, hbs⟩
      · rintro ⟨⟨b, hb⟩, bs, hbs⟩
        exact ⟨b :: bs, .cons hb hbs⟩

end SpotForecast.Grid
