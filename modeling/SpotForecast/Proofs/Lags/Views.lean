import SpotForecast.Proofs.Grid.Views
import SpotForecast.Proofs.Lags.Windows

/-!
# Features of a view

A view of the grid of observations is as good a grid as the whole one.  Nothing that reads it asks
for a place that is not there (`soundPart_viewed`), and its features are known row by row
(`rowByRow_viewed`).

The latest features and the mean of the latest values depend on the last rows only.  So cutting a
grid down to these changes neither of them (`latest_tail`, `rollingMean_tail`), faults included:
what is too short for the one or the other is not cut at all.
-/

namespace SpotForecast

variable {g : Grid} {category : String} {count m window : Nat}

namespace Lags

/-! ### Outcomes -/

/-- **Three outcomes.**  There are too few rows, or the column is missing, or there are features. -/
theorem build_cases (hg : g.Rectangular) (hcount : 0 < count) (category : String) :
    (g.rowCount ≤ count ∧
        build count g category = .error (.fault (.insufficientData (count + 1) g.rowCount))) ∨
      (count < g.rowCount ∧ category ∉ g.columns ∧
        build count g category = .error (.fault (.unknownCategory category))) ∨
      (count < g.rowCount ∧ category ∈ g.columns ∧ ∃ i values,
        g.requireColumn category = .ok i ∧ g.columnValues i = some values ∧
          g.IsColumn category values ∧
          build count g category = .ok (featureRows count g.rows values)) := by
  by_cases hrows : g.rowCount ≤ count
  · exact Or.inl ⟨hrows, build_of_fewRows hcount hrows⟩
  · rw [Nat.not_le] at hrows
    by_cases hcategory : category ∈ g.columns
    · obtain ⟨i, values, hi, hvalues, hcolumn⟩ := Grid.exists_column hg hcategory
      exact Or.inr (Or.inr ⟨hrows, hcategory, i, values, hi, hvalues, hcolumn,
        build_eq hcount hrows hi hvalues⟩)
    · exact Or.inr (Or.inl ⟨hrows, hcategory, build_of_unknown hcount hrows hcategory⟩)

theorem build_eq_insufficientData_iff (hg : g.Rectangular) (hcount : 0 < count) :
    build count g category = .error (.fault (.insufficientData (count + 1) g.rowCount)) ↔
      g.rowCount ≤ count := by
  refine ⟨fun hbuild => ?_, build_of_fewRows hcount⟩
  rcases build_cases hg hcount category with
    ⟨hrows, -⟩ | ⟨-, -, hunknown⟩ | ⟨-, -, i, values, -, -, -, hfeatures⟩
  · exact hrows
  · cases hunknown.symm.trans hbuild
  · cases hfeatures.symm.trans hbuild

/-- That a column is missing is told only where there are enough rows. -/
theorem build_eq_unknownCategory_iff (hg : g.Rectangular) (hcount : 0 < count)
    (hrows : count < g.rowCount) :
    build count g category = .error (.fault (.unknownCategory category)) ↔
      category ∉ g.columns := by
  refine ⟨fun hbuild hcategory => ?_, build_of_unknown hcount hrows⟩
  obtain ⟨i, values, hi, hvalues, -⟩ := Grid.exists_column hg hcategory
  cases (build_eq hcount hrows hi hvalues).symm.trans hbuild

theorem build_ne_abort (hg : g.Rectangular) (count : Nat) (category : String) (a : Abort) :
    build count g category ≠ .error (.abort a) := by
  intro habort
  by_cases hcount : count = 0
  · rw [build, if_pos hcount] at habort
    cases habort
  · rcases build_cases hg (Nat.pos_of_ne_zero hcount) category with
      ⟨-, hbuild⟩ | ⟨-, -, hbuild⟩ | ⟨-, -, i, values, -, -, -, hbuild⟩
    · cases hbuild.symm.trans habort
    · cases hbuild.symm.trans habort
    · cases hbuild.symm.trans habort

theorem latest_ne_abort (hg : g.Rectangular) (count : Nat) (category : String) (a : Abort) :
    latest count g category ≠ .error (.abort a) := by
  intro habort
  rw [latest] at habort
  cases hbuild : build count g category with
  | error e =>
      rw [hbuild] at habort
      cases habort
      exact build_ne_abort hg count category a hbuild
  | ok rows =>
      rw [hbuild] at habort
      simp only [bind, Except.bind] at habort
      split at habort
      · cases habort
      · cases habort

/-- Features that there are have a last row. -/
theorem exists_latest_of_build {features : List Row}
    (h : build count g category = .ok features) :
    ∃ last, features.getLast? = some last ∧ latest count g category = .ok last := by
  obtain ⟨-, hrows, i, values, -, -, hlength, rfl⟩ := of_build_ok h
  have hne : featureRows count g.rows values ≠ [] := by
    apply List.ne_nil_of_length_pos
    rw [length_featureRows hlength]
    exact Nat.sub_pos_of_lt hrows
  obtain ⟨last, hlast⟩ := Option.isSome_iff_exists.mp (List.getLast?_isSome.mpr hne)
  exact ⟨last, hlast, latest_of_build_ok h hlast⟩

/-! ### The last rows -/

/-- The last window of values is the same if it is cut from the last rows. -/
theorem drop_minRows_drop {values : List Float} (hlength : values.length = g.rowCount)
    (hm : count + 1 ≤ m) (hrows : count < g.rowCount) :
    (values.drop (g.rowCount - m)).drop
        ((values.drop (g.rowCount - m)).length - minRows count) =
      values.drop (values.length - minRows count) := by
  have hplace : g.rowCount - m + (g.rowCount - (g.rowCount - m) - minRows count) =
      g.rowCount - minRows count := by
    rw [minRows]
    omega
  rw [List.drop_drop, List.length_drop, hlength, hplace]

/-- **The last rows decide.**  The latest features stay the same, or fail to be made for the same
reason, if all rows but the last are cut off and enough rows are kept. -/
theorem latest_tail (hg : g.Rectangular) (hcount : 0 < count) (hm : count + 1 ≤ m)
    (category : String) : latest count (g.tail m) category = latest count g category := by
  have hkept := Grid.rowCount_tail g m
  rcases build_cases hg hcount category with
    ⟨hrows, hbuild⟩ | ⟨hrows, hmissing, hbuild⟩ | ⟨hrows, -, i, values, hi, hvalues, hcolumn, -⟩
  · have hall : (g.tail m).rowCount = g.rowCount := by omega
    have htail : build count (g.tail m) category =
        .error (.fault (.insufficientData (count + 1) (g.tail m).rowCount)) :=
      build_of_fewRows hcount (hall.symm ▸ hrows)
    rw [latest_of_build_error htail, latest_of_build_error hbuild, hall]
  · have htail := build_of_unknown (g := g.tail m) hcount (by omega) hmissing
    rw [latest_of_build_error htail, latest_of_build_error hbuild]
  · have hne : g.rows ≠ [] := List.ne_nil_of_length_pos (Nat.zero_lt_of_lt hrows)
    obtain ⟨last, hlast⟩ := Option.isSome_iff_exists.mp (List.getLast?_isSome.mpr hne)
    have hlength := hcolumn.length_eq
    have hlength' : (values.drop (g.rowCount - m)).length = (g.tail m).rowCount := by
      rw [List.length_drop, hlength, hkept]
      omega
    have hlast' := Grid.getLast?_rows_tail (by omega : 0 < m) hlast
    have hwindow := drop_minRows_drop hlength hm hrows
    rw [latest_eq_ok hcount hrows hi hvalues hlength hlast]
    rw [latest_eq_ok (g := g.tail m) hcount (by omega) hi (Grid.columnValues_tail m hvalues)
      hlength' hlast', hwindow]

end Lags

namespace Grid

theorem rollingMean_ne_abort (hg : g.Rectangular) (window : Nat) (category : String) (a : Abort) :
    g.rollingMean window category ≠ .error (.abort a) := by
  intro habort
  by_cases hwindow : window = 0
  · rw [rollingMean, if_pos hwindow] at habort
    cases habort
  · by_cases hcategory : category ∈ g.columns
    · by_cases hrows : g.rowCount < window
      · rw [rollingMean_of_fewRows hrows hcategory] at habort
        cases habort
      · obtain ⟨i, values, hi, hvalues, -⟩ := exists_column hg hcategory
        rw [rollingMean_eq (by omega) (by omega) hi hvalues] at habort
        cases habort
    · rw [rollingMean_of_unknown (Nat.pos_of_ne_zero hwindow) hcategory] at habort
      cases habort

/-- The mean of the latest values stays the same, or fails to be made for the same reason, if all
rows but the last are cut off and those inside its window are kept. -/
theorem rollingMean_tail (hg : g.Rectangular) (hwindow : 0 < window) (hm : window ≤ m)
    (category : String) :
    (g.tail m).rollingMean window category = g.rollingMean window category := by
  have hkept := rowCount_tail g m
  by_cases hcategory : category ∈ g.columns
  · by_cases hrows : g.rowCount < window
    · have hall : (g.tail m).rowCount = g.rowCount := by omega
      have htail := rollingMean_of_fewRows (g := g.tail m) (hall.symm ▸ hrows) hcategory
      rw [htail, rollingMean_of_fewRows hrows hcategory, hall]
    · obtain ⟨i, values, hi, hvalues, -⟩ := exists_column hg hcategory
      have hplace : g.rowCount - m + (min m g.rowCount - window) = g.rowCount - window := by omega
      have hmean := rollingMean_eq hwindow (by omega) hi hvalues
      have htail := rollingMean_eq (g := g.tail m) hwindow (by omega) hi
        (columnValues_tail m hvalues)
      rw [htail, hmean, hkept, List.drop_drop, hplace]
  · have htail := rollingMean_of_unknown (g := g.tail m) hwindow hcategory
    rw [htail, rollingMean_of_unknown hwindow hcategory]

/-! ### Views of the grid of observations -/

/-- A grid keeps what another one is, apart from rows before and behind its own, and everything that
reads it finds what it asks for. -/
structure SoundPart (full g : Grid) : Prop where
  columns_eq : g.columns = full.columns
  stepHours_eq : g.stepHours = full.stepHours
  rows_infix : g.rows <:+: full.rows
  time_eq : ∀ (n : Nat) (first r : Row), g.rows[0]? = some first → g.rows[n]? = some r →
    r.time = Instant.ofSeconds (first.time.seconds + n * g.stepSeconds)
  columns_ascending : g.columns.Pairwise (fun a b => Text.utf8 a < Text.utf8 b)
  length_values : ∀ r ∈ g.rows, r.values.length = g.columns.length
  column_read : ∀ name i, g.columnIndex? name = some i →
    ∃ values, g.columnValues i = some values ∧ values.length = g.rowCount
  /-- Features are made without an abort, and each of them from values that are there. -/
  build_ne_abort : ∀ count category a, Lags.build count g category ≠ .error (.abort a)
  build_read : ∀ count category features, Lags.build count g category = .ok features →
    ∃ i values, g.requireColumn category = .ok i ∧ g.columnValues i = some values ∧
      (List.range (g.rowCount - count)).mapM
        (fun place => Lags.featuresAt? count g.rows values (place + count)) = some features
  latest_ne_abort : ∀ count category a, Lags.latest count g category ≠ .error (.abort a)
  rollingMean_ne_abort : ∀ window category a, g.rollingMean window category ≠ .error (.abort a)
  tail_tail : ∀ m n, (g.tail m).tail n = g.tail (min m n)

theorem exists_featuresAt?_of_build {features : List Row}
    (h : Lags.build count g category = .ok features) :
    ∃ i values, g.requireColumn category = .ok i ∧ g.columnValues i = some values ∧
      (List.range (g.rowCount - count)).mapM
        (fun place => Lags.featuresAt? count g.rows values (place + count)) = some features := by
  obtain ⟨-, -, i, values, hi, hvalues, hlength, rfl⟩ := Lags.of_build_ok h
  exact ⟨i, values, hi, hvalues, Lags.mapM_featuresAt? hlength⟩

/-- **Views.**  Whatever views are taken of the grid of observations, with whatever bounds, what is
left is a sound part of it. -/
theorem soundPart_viewed {stepHours : Nat} {observations : List Observation} {full : Grid}
    (h : ofObservations stepHours observations = .ok full) (views : List View) :
    SoundPart full (full.viewed views) := by
  have hpart := isPart_viewed full views
  have hsound := (sound_ofObservations h).of_isPart hpart
  have hg := hsound.rectangular
  constructor
  case columns_eq => exact hpart.columns
  case stepHours_eq => exact hpart.stepHours
  case rows_infix => exact hpart.rows
  case time_eq =>
    intro n first r hfirst hr
    rw [← Nat.zero_add n] at hr
    exact hsound.time_eq 0 n first r hfirst hr
  case columns_ascending => exact hsound.columns_ascending
  case length_values => exact hg
  case column_read =>
    intro name i hi
    obtain ⟨values, hvalues, hcolumn⟩ := exists_columnValues hg (getElem?_of_columnIndex? hi)
    exact ⟨values, hvalues, hcolumn.length_eq⟩
  case build_ne_abort => exact Lags.build_ne_abort hg
  case build_read =>
    intro count category features hbuild
    exact exists_featuresAt?_of_build hbuild
  case latest_ne_abort => exact Lags.latest_ne_abort hg
  case rollingMean_ne_abort => exact Grid.rollingMean_ne_abort hg
  case tail_tail => exact Grid.tail_tail _

/-- Prices of two columns, one of which starts later, with gaps of some hours. -/
def gappyPrices : List Observation :=
  [⟨⟨3600, 0⟩, 2.0, ⟨"a", "x", "z"⟩⟩, ⟨⟨7205, 0⟩, 1.0, ⟨"b", "x", "z"⟩⟩,
    ⟨⟨18000, 0⟩, 4.0, ⟨"a", "x", "z"⟩⟩, ⟨⟨32400, 0⟩, 3.0, ⟨"b", "x", "z"⟩⟩]

def gappyGrid : Grid :=
  ⟨columnsOf gappyPrices, 1, gridRows 1 gappyPrices⟩

theorem ofObservations_gappyPrices : ofObservations 1 gappyPrices = .ok gappyGrid := by
  have hne : gappyPrices ≠ [] := List.cons_ne_nil _ _
  exact ofObservations_eq_ok (by decide) hne ((fits_iff (by decide) hne).mp (by decide))

/-- Views of the gappy grid, some of them with bounds past its end or in the wrong order. -/
theorem soundPart_viewed_gappyPrices :
    ofObservations 1 gappyPrices = .ok gappyGrid ∧
      SoundPart gappyGrid (gappyGrid.viewed [.slice 1 90, .tail 4, .slice 3 2, .tail 0]) :=
  ⟨ofObservations_gappyPrices, soundPart_viewed ofObservations_gappyPrices _⟩

end Grid

namespace Lags

/-- The features of a category in a grid, row by row, and what they depend on. -/
structure RowByRow (count : Nat) (g : Grid) (category : String) : Prop where
  few_rows : build count g category =
    .error (.fault (.insufficientData (count + 1) g.rowCount)) ↔ g.rowCount ≤ count
  unknown : count < g.rowCount →
    (build count g category = .error (.fault (.unknownCategory category)) ↔
      category ∉ g.columns)
  /-- Each row with enough rows before it has the ratios up to its value. -/
  rows : count < g.rowCount → category ∈ g.columns →
    ∃ values features, g.IsColumn category values ∧ build count g category = .ok features ∧
      features.length = g.rowCount - count ∧
      ∀ place < g.rowCount - count, ∃ r f, g.rows[place + count]? = some r ∧
        features[place]? = some f ∧ f.time = r.time ∧ AreRatiosFrom place count values f.values
  latest_ok : ∀ features, build count g category = .ok features →
    ∃ last, features.getLast? = some last ∧ latest count g category = .ok last
  latest_error : ∀ e, build count g category = .error e → latest count g category = .error e
  /-- The latest features depend on the last rows only, and so does a mean. -/
  latest_tail : ∀ m, count + 1 ≤ m → latest count (g.tail m) category = latest count g category
  rollingMean_tail : ∀ m window, 1 ≤ window → window ≤ m →
    (g.tail m).rollingMean window category = g.rollingMean window category

/-- The rows of features stand behind the first rows and have the ratios from there on. -/
theorem exists_featureRows {values : List Float} (hlength : values.length = g.rowCount)
    {place : Nat} (hplace : place < g.rowCount - count) :
    ∃ r f, g.rows[place + count]? = some r ∧ (featureRows count g.rows values)[place]? = some f ∧
      f.time = r.time ∧ AreRatiosFrom place count values f.values := by
  have hlt : place + count < g.rowCount := by omega
  have hr := List.getElem?_eq_getElem (l := g.rows) (i := place + count) hlt
  exact ⟨_, _, hr, getElem?_featureRows hlength hr, rfl, areRatiosFrom_ratios (hlength ▸ hlt)⟩

/-- **Row by row.**  The features of a view of the grid of observations are those of its rows,
where there are enough of them and the column is there. -/
theorem rowByRow_viewed {stepHours : Nat} {observations : List Observation} {full : Grid}
    (h : Grid.ofObservations stepHours observations = .ok full) (views : List Grid.View)
    (hcount : 0 < count) (category : String) :
    RowByRow count (full.viewed views) category := by
  have hg := ((Grid.sound_ofObservations h).of_isPart (Grid.isPart_viewed full views)).rectangular
  constructor
  case few_rows => exact build_eq_insufficientData_iff hg hcount
  case unknown =>
    intro hrows
    exact build_eq_unknownCategory_iff hg hcount hrows
  case rows =>
    intro hrows hcategory
    obtain ⟨i, values, hi, hvalues, hcolumn⟩ := Grid.exists_column hg hcategory
    exact ⟨values, _, hcolumn, build_eq hcount hrows hi hvalues,
      length_featureRows hcolumn.length_eq,
      fun place hplace => exists_featureRows hcolumn.length_eq hplace⟩
  case latest_ok =>
    intro features hbuild
    exact exists_latest_of_build hbuild
  case latest_error =>
    intro e hbuild
    exact latest_of_build_error hbuild
  case latest_tail =>
    intro m hm
    exact Lags.latest_tail hg hcount hm category
  case rollingMean_tail =>
    intro m window hwindow hm
    exact Grid.rollingMean_tail hg hwindow hm category

/-- The features of the column that starts later, in a view of the gappy grid. -/
theorem rowByRow_viewed_gappyPrices :
    Grid.ofObservations 1 Grid.gappyPrices = .ok Grid.gappyGrid ∧ 0 < 2 ∧
      RowByRow 2 (Grid.gappyGrid.viewed [.tail 5, .slice 0 4]) "b__x__z" := by
  have hgrid := Grid.ofObservations_gappyPrices
  have hcount : 0 < 2 := by decide
  exact ⟨hgrid, hcount, rowByRow_viewed hgrid [.tail 5, .slice 0 4] hcount "b__x__z"⟩

end Lags

end SpotForecast
