import Mathlib.Data.List.Basic
import SpotForecast.Proofs.Text.Lines

/-!
# Runs between separators

`Runs stop text runs` says what a text looks like that has certain runs: any separators, a run, and
then a text that is empty or begins with a separator and has the other runs.  So between two runs
there is at least one separator, in front of them and behind them there may be any, and no run could
be longer (`Runs.eq_append_cons_iff`).

Every text has its runs, and they are the pieces of the text that are not empty (`filled_eq_iff`).
Read from right to left this is a round trip: however runs are spread over a text, cutting the text
gives them back.
-/

namespace SpotForecast.Text

variable {α : Type} {stop : α → Bool} {text gap run before after : List α}
  {runs earlier later : List (List α)}

/-- A text has these runs between separators, in this order. -/
inductive Runs (stop : α → Bool) : List α → List (List α) → Prop where
  | none {gap : List α} (hgap : ∀ a ∈ gap, stop a = true) : Runs stop gap []
  | cons {gap run text : List α} {runs : List (List α)} (hgap : ∀ a ∈ gap, stop a = true)
      (hne : run ≠ []) (hrun : ∀ a ∈ run, stop a = false)
      (hnext : ∀ a ∈ text.head?, stop a = true) (hrest : Runs stop text runs) :
      Runs stop (gap ++ (run ++ text)) (run :: runs)

/-! ### Cutting -/

/-- The pieces of a text that are not empty. -/
def filled (stop : α → Bool) (text : List α) : List (List α) :=
  (pieces stop text).filter (fun piece => !piece.isEmpty)

theorem filled_cons_of_stop {a : α} (ha : stop a = true) (text : List α) :
    filled stop (a :: text) = filled stop text := by
  rw [filled, pieces, if_pos ha]
  rfl

/-- Separators in front of a text do not count. -/
theorem filled_gap_append (hgap : ∀ a ∈ gap, stop a = true) (text : List α) :
    filled stop (gap ++ text) = filled stop text := by
  induction gap with
  | nil => rfl
  | cons a rest ih =>
      obtain ⟨ha, hrest⟩ := List.forall_mem_cons.mp hgap
      rw [List.cons_append, filled_cons_of_stop ha, ih hrest]

/-- A run in front of a separator, or of nothing, is a piece of its own. -/
theorem filled_run_append (hne : run ≠ []) (hrun : ∀ a ∈ run, stop a = false)
    (hnext : ∀ a ∈ text.head?, stop a = true) :
    filled stop (run ++ text) = run :: filled stop text := by
  cases text with
  | nil => simp [filled, pieces_eq_singleton hrun, pieces, hne]
  | cons a rest =>
      have ha : stop a = true := hnext a rfl
      rw [filled_cons_of_stop ha, filled, pieces_append_cons ha, pieces_eq_singleton hrun]
      simp [filled, hne]

theorem Runs.filled_eq (h : Runs stop text runs) : filled stop text = runs := by
  induction h with
  | none hgap =>
      have hcut := filled_gap_append hgap []
      rwa [List.append_nil] at hcut
  | cons hgap hne hrun hnext hrest ih =>
      rw [filled_gap_append hgap, filled_run_append hne hrun hnext, ih]

/-- One more element in front of a text is a separator, a run of its own, or the start of the first
run. -/
theorem Runs.exists_cons (h : Runs stop text runs) (a : α) :
    ∃ runs', Runs stop (a :: text) runs' := by
  have hnone : ∀ b ∈ ([] : List α), stop b = true := by simp
  cases ha : stop a with
  | true =>
      cases h with
      | none hgap => exact ⟨_, .none (List.forall_mem_cons.mpr ⟨ha, hgap⟩)⟩
      | cons hgap hne hrun hnext hrest =>
          exact ⟨_, .cons (List.forall_mem_cons.mpr ⟨ha, hgap⟩) hne hrun hnext hrest⟩
  | false =>
      by_cases hstop : ∀ b ∈ text.head?, stop b = true
      · have hsingle : ∀ b ∈ [a], stop b = false := by simpa using ha
        exact ⟨_, .cons hnone (List.cons_ne_nil a []) hsingle hstop h⟩
      · -- the text begins with a run, so there are no separators in front of that
        cases h with
        | none hgap => exact absurd (fun b hb => hgap b (List.mem_of_mem_head? hb)) hstop
        | @cons gap run rest runs hgap hne hrun hnext hrest =>
            cases gap with
            | nil =>
                have hlonger : ∀ b ∈ a :: run, stop b = false := List.forall_mem_cons.mpr ⟨ha, hrun⟩
                exact ⟨_, .cons hnone (List.cons_ne_nil a run) hlonger hnext hrest⟩
            | cons b more =>
                have hb : stop b = true := hgap b List.mem_cons_self
                exact absurd (by simpa using hb) hstop

theorem exists_runs (stop : α → Bool) (text : List α) : ∃ runs, Runs stop text runs := by
  induction text with
  | nil => exact ⟨[], .none (by simp)⟩
  | cons a rest ih =>
      obtain ⟨runs, hruns⟩ := ih
      exact hruns.exists_cons a

/-- **Runs are pieces.**  The pieces of a text that are not empty are its runs, and it has no
others. -/
theorem filled_eq_iff : filled stop text = runs ↔ Runs stop text runs := by
  constructor
  · rintro rfl
    obtain ⟨runs, hruns⟩ := exists_runs stop text
    rwa [hruns.filled_eq]
  · exact Runs.filled_eq

theorem Runs.unique {runs' : List (List α)} (h : Runs stop text runs)
    (h' : Runs stop text runs') : runs = runs' :=
  h.filled_eq.symm.trans h'.filled_eq

/-! ### Places -/

/-- A run between two texts: it is not empty, has no separator, and could not be made longer. -/
structure IsMaximal (stop : α → Bool) (before run after : List α) : Prop where
  ne_nil : run ≠ []
  not_stop : ∀ a ∈ run, stop a = false
  stop_before : ∀ a ∈ before.getLast?, stop a = true
  stop_after : ∀ a ∈ after.head?, stop a = true

/-- A text that begins with a separator, or is empty, does not begin with a run. -/
theorem IsMaximal.ne_append (h : IsMaximal stop before run after)
    (hstop : ∀ a ∈ text.head?, stop a = true) (rest : List α) : text ≠ run ++ rest := by
  rintro rfl
  obtain ⟨a, more, rfl⟩ := List.exists_cons_of_ne_nil h.ne_nil
  have ha := hstop a rfl
  rw [h.not_stop a List.mem_cons_self] at ha
  cases ha

/-- Behind a run comes another one only after a separator. -/
theorem IsMaximal.ne_nil_of_append {first text : List α}
    (h : IsMaximal stop (gap ++ (first ++ text)) run after) (hne : first ≠ [])
    (hfirst : ∀ a ∈ first, stop a = false) : text ≠ [] := by
  rintro rfl
  obtain ⟨a, ha⟩ := Option.isSome_iff_exists.mp (List.getLast?_isSome.mpr hne)
  have hstop := h.stop_before a (by simp [List.getLast?_append, ha])
  rw [hfirst a (List.mem_of_getLast? ha)] at hstop
  cases hstop

/-- A maximal run is one of the runs of its text, behind those of the text before it. -/
theorem Runs.append_cons (hbefore : Runs stop before earlier) (hafter : Runs stop after later)
    (h : IsMaximal stop before run after) :
    Runs stop (before ++ (run ++ after)) (earlier ++ run :: later) := by
  induction hbefore with
  | none hgap => exact .cons hgap h.ne_nil h.not_stop h.stop_after hafter
  | @cons gap first text runs hgap hne hfirst hnext hrest ih =>
      have htext := h.ne_nil_of_append hne hfirst
      have hmaximal : IsMaximal stop text run after := by
        refine ⟨h.ne_nil, h.not_stop, ?_, h.stop_after⟩
        intro a ha
        exact h.stop_before a (by simp [List.getLast?_append, Option.mem_def.mp ha])
      have hhead : ∀ a ∈ (text ++ (run ++ after)).head?, stop a = true := by
        rwa [List.head?_append_of_ne_nil _ htext]
      rw [List.append_assoc, List.append_assoc]
      exact .cons hgap hne hfirst hhead (ih hmaximal)

/-- Each run of a text stands in it, behind a text that has just the runs before. -/
theorem Runs.exists_isMaximal (h : Runs stop text (earlier ++ run :: later)) :
    ∃ before after, text = before ++ (run ++ after) ∧ IsMaximal stop before run after ∧
      Runs stop before earlier ∧ Runs stop after later := by
  induction earlier generalizing text with
  | nil =>
      cases h with
      | @cons gap run text runs hgap hne hrun hnext hrest =>
          refine ⟨gap, text, rfl, ⟨hne, hrun, ?_, hnext⟩, .none hgap, hrest⟩
          exact fun a ha => hgap a (List.mem_of_getLast? ha)
  | cons first earlier ih =>
      cases h with
      | @cons gap first text runs hgap hne hfirst hnext hrest =>
          obtain ⟨before, after, rfl, hmaximal, hbefore, hafter⟩ := ih hrest
          have hbefore_ne : before ≠ [] := by
            rintro rfl
            exact hmaximal.ne_append hnext after rfl
          have hhead : ∀ a ∈ before.head?, stop a = true := by
            rwa [List.head?_append_of_ne_nil _ hbefore_ne] at hnext
          refine ⟨gap ++ (first ++ before), after, by simp, ⟨hmaximal.ne_nil, hmaximal.not_stop, ?_,
            hmaximal.stop_after⟩, .cons hgap hne hfirst hhead hbefore, hafter⟩
          intro a ha
          rw [List.getLast?_append_of_ne_nil _ (by simp [hne]),
            List.getLast?_append_of_ne_nil _ hbefore_ne] at ha
          exact hmaximal.stop_before a ha

/-- **Maximal runs.**  The runs of a text are the maximal ones, each one in its place. -/
theorem Runs.eq_append_cons_iff (h : Runs stop text runs) :
    runs = earlier ++ run :: later ↔
      ∃ before after, text = before ++ (run ++ after) ∧ IsMaximal stop before run after ∧
        Runs stop before earlier ∧ Runs stop after later := by
  constructor
  · rintro rfl
    exact h.exists_isMaximal
  · rintro ⟨before, after, rfl, hmaximal, hbefore, hafter⟩
    exact h.unique (hbefore.append_cons hafter hmaximal)

end SpotForecast.Text
