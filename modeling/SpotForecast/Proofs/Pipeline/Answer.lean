import SpotForecast.Pipeline
import SpotForecast.Proofs.Grid.Layout
import SpotForecast.Proofs.Lags.Windows
import SpotForecast.Proofs.Tree.Features

/-!
# What a pipeline answers

`Pipeline.build` gives pipelines that are `WellFormed`, and nothing else about a pipeline matters
for its answers.  They come in four kinds, in this order: there are no observations
(`forecastAt_nil`), their grid has too few rows (`forecastAt_of_fewRows`), the grid has no column
for the category (`forecastAt_of_unknown`), or there is a forecast (`exists_forecastAt`).

* `AnswersTo` states the four kinds together, in terms of the rows of the grid and the values of
  the column only.
* `build_answersTo`: every pipeline that was built answers like this.
-/

namespace SpotForecast.Pipeline

/-- The settings are positive and no tree asks for more features than there are lags. -/
structure WellFormed (p : Pipeline) : Prop where
  stepHours_pos : 0 < p.settings.stepHours
  numLags_pos : 0 < p.settings.numLags
  meanTree_fits : p.meanTree.root.requiredFeatures ≤ p.settings.numLags
  stdTree_fits : p.stdTree.root.requiredFeatures ≤ p.settings.numLags

/-- A tree is accepted exactly if it asks for no more features than there are lags. -/
theorem checkTree_eq_ok_iff {numLags : Nat} {tree : DecisionTree} :
    checkTree numLags tree = .ok () ↔ tree.root.requiredFeatures ≤ numLags := by
  rw [checkTree]
  split
  · rename_i h
    simpa using h
  · rename_i h
    simpa using h

/-- **Building.**  Two trees and settings give the pipeline of these, if it is well-formed. -/
theorem build_eq_ok_iff {meanTree stdTree : DecisionTree} {settings : PipelineSettings}
    {p : Pipeline} :
    build meanTree stdTree settings = .ok p ↔
      p = ⟨meanTree, stdTree, settings⟩ ∧ p.WellFormed := by
  constructor
  · intro h
    rw [build] at h
    by_cases hzero : settings.stepHours = 0 ∨ settings.numLags = 0
    · rw [if_pos hzero] at h
      cases h
    · rw [if_neg hzero] at h
      cases hmean : checkTree settings.numLags meanTree with
      | error e => simp [hmean, bind, Except.bind] at h
      | ok u =>
          cases hstd : checkTree settings.numLags stdTree with
          | error e => simp [hmean, hstd, bind, Except.bind] at h
          | ok u' =>
              have hp : ⟨meanTree, stdTree, settings⟩ = p := by
                simpa [hmean, hstd, bind, Except.bind, pure, Except.pure] using h
              subst hp
              exact ⟨rfl, Nat.pos_of_ne_zero (fun hstep => hzero (Or.inl hstep)),
                Nat.pos_of_ne_zero (fun hlags => hzero (Or.inr hlags)),
                checkTree_eq_ok_iff.mp hmean, checkTree_eq_ok_iff.mp hstd⟩
  · rintro ⟨rfl, hp⟩
    have hpositive : ¬(settings.stepHours = 0 ∨ settings.numLags = 0) := by
      have hstep : 0 < settings.stepHours := hp.stepHours_pos
      have hlags : 0 < settings.numLags := hp.numLags_pos
      omega
    rw [build, if_neg hpositive, checkTree_eq_ok_iff.mpr hp.meanTree_fits,
      checkTree_eq_ok_iff.mpr hp.stdTree_fits]
    rfl

/-- What a forecast says.  Both trees get the latest ratios of the column of the category.  The mean
of its latest prices is taken over as many rows as there are ratios; they are added from the
earliest row to the latest one, starting at negative zero. -/
def Foretells (p : Pipeline) (g : Grid) (category : String) (generatedAt : Instant)
    (f : Forecast) : Prop :=
  ∃ values features ratio deviation, g.IsColumn category values ∧
    Lags.AreLatestRatios p.settings.numLags values features ∧
    p.meanTree.root.evaluate features = some ratio ∧
    p.stdTree.root.evaluate features = some deviation ∧
    f.mean = ratio *
      ((values.drop (g.rowCount - p.settings.numLags)).foldl (fun sum x => sum + x) (-0.0) /
        Float.ofNat p.settings.numLags) ∧
    f.stdDeviation = deviation ∧ f.generatedAt = generatedAt ∧
    f.horizonDays = p.settings.horizonDays ∧ f.category = category

/-- The answers of a pipeline: which one there is depends on the observations, on the number of
rows of their grid and on whether one of them has the category, in this order. -/
structure AnswersTo (p : Pipeline) (category : String) (observations : List Observation)
    (generatedAt : Instant) : Prop where
  no_observations : observations = [] →
    p.forecastAt category observations generatedAt =
      .error (.fault (.insufficientData (p.settings.numLags + 1) 0))
  exists_grid : observations ≠ [] →
    ∃ g, Grid.ofObservations p.settings.stepHours observations = .ok g
  few_rows : ∀ g, Grid.ofObservations p.settings.stepHours observations = .ok g →
    g.rowCount ≤ p.settings.numLags →
    p.forecastAt category observations generatedAt =
      .error (.fault (.insufficientData (p.settings.numLags + 1) g.rowCount))
  unknown : ∀ g, Grid.ofObservations p.settings.stepHours observations = .ok g →
    p.settings.numLags < g.rowCount → (¬∃ o ∈ observations, o.name = category) →
    p.forecastAt category observations generatedAt =
      .error (.fault (.unknownCategory category))
  forecast : ∀ g, Grid.ofObservations p.settings.stepHours observations = .ok g →
    p.settings.numLags < g.rowCount → (∃ o ∈ observations, o.name = category) →
    ∃ f, p.forecastAt category observations generatedAt = .ok f ∧
      p.Foretells g category generatedAt f
  /-- Where there are features, the mean of the latest rows does not fail. -/
  mean_exists : ∀ g, Grid.ofObservations p.settings.stepHours observations = .ok g →
    ∀ r, Lags.latest p.settings.numLags g category = .ok r →
    ∃ x, g.rollingMean p.settings.numLags category = .ok x

variable {p : Pipeline} {category : String} {observations : List Observation}
  {generatedAt : Instant} {g : Grid}

/-- No observations are too few rows. -/
theorem forecastAt_nil : p.forecastAt category [] generatedAt =
    .error (.fault (.insufficientData (p.settings.numLags + 1) 0)) :=
  rfl

/-- With a grid, the forecast is made from its features and the mean of its latest rows. -/
theorem forecastAt_of_grid (hgrid : Grid.ofObservations p.settings.stepHours observations = .ok g) :
    p.forecastAt category observations generatedAt = (do
      let features ← Lags.latest p.settings.numLags g category
      let priorMean ← g.rollingMean p.settings.numLags category
      let meanRatio ← orAbort .missingFeature (p.meanTree.root.evaluate features.values)
      let stdDeviation ← orAbort .missingFeature (p.stdTree.root.evaluate features.values)
      pure ⟨meanRatio * priorMean, stdDeviation, generatedAt, p.settings.horizonDays,
        category⟩) := by
  obtain ⟨-, hne, -, -⟩ := Grid.ofObservations_eq_ok_iff.mp hgrid
  have hfilled : ¬observations.isEmpty = true := by simpa using hne
  rw [forecastAt]
  simp only [if_neg hfilled, hgrid, bind, Except.bind, pure, Except.pure]

/-- Too few rows are too few for any category. -/
theorem forecastAt_of_fewRows (hp : p.WellFormed)
    (hgrid : Grid.ofObservations p.settings.stepHours observations = .ok g)
    (hrows : g.rowCount ≤ p.settings.numLags) :
    p.forecastAt category observations generatedAt =
      .error (.fault (.insufficientData (p.settings.numLags + 1) g.rowCount)) := by
  have hbuild : Lags.build p.settings.numLags g category =
      .error (.fault (.insufficientData (p.settings.numLags + 1) g.rowCount)) :=
    Lags.build_of_fewRows hp.numLags_pos hrows
  have hlatest := Lags.latest_of_build_error hbuild
  rw [forecastAt_of_grid hgrid, hlatest]
  rfl

/-- With enough rows, a category without observations is unknown. -/
theorem forecastAt_of_unknown (hp : p.WellFormed)
    (hgrid : Grid.ofObservations p.settings.stepHours observations = .ok g)
    (hrows : p.settings.numLags < g.rowCount)
    (hunknown : ¬∃ o ∈ observations, o.name = category) :
    p.forecastAt category observations generatedAt =
      .error (.fault (.unknownCategory category)) := by
  have hcolumn : category ∉ g.columns := fun hmem =>
    hunknown ((Grid.mem_columns_ofObservations hgrid).mp hmem)
  have hbuild : Lags.build p.settings.numLags g category =
      .error (.fault (.unknownCategory category)) :=
    Lags.build_of_unknown hp.numLags_pos hrows hcolumn
  have hlatest := Lags.latest_of_build_error hbuild
  rw [forecastAt_of_grid hgrid, hlatest]
  rfl

/-- **Forecasts.**  With enough rows, a category with observations has a forecast. -/
theorem exists_forecastAt (generatedAt : Instant) (hp : p.WellFormed)
    (hgrid : Grid.ofObservations p.settings.stepHours observations = .ok g)
    (hrows : p.settings.numLags < g.rowCount) (hknown : ∃ o ∈ observations, o.name = category) :
    ∃ f, p.forecastAt category observations generatedAt = .ok f ∧
      p.Foretells g category generatedAt f := by
  rw [← Grid.mem_columns_ofObservations hgrid] at hknown
  obtain ⟨i, values, hi, hvalues, hcolumn⟩ :=
    Grid.exists_column (Grid.rectangular_ofObservations hgrid) hknown
  obtain ⟨features, hlatest, hfeatures⟩ :=
    Lags.latest_eq hp.numLags_pos hrows hi hvalues hcolumn.length_eq
  have hlength : features.values.length = p.settings.numLags := hfeatures.1
  obtain ⟨ratio, hratio⟩ := Tree.exists_evaluate (hlength.symm ▸ hp.meanTree_fits)
  obtain ⟨deviation, hdeviation⟩ := Tree.exists_evaluate (hlength.symm ▸ hp.stdTree_fits)
  have hmean : g.rollingMean p.settings.numLags category =
      .ok ((values.drop (g.rowCount - p.settings.numLags)).foldl (fun sum x => sum + x) (-0.0) /
        Float.ofNat p.settings.numLags) :=
    Grid.rollingMean_eq hp.numLags_pos (Nat.le_of_lt hrows) hi hvalues
  refine ⟨⟨_, deviation, generatedAt, p.settings.horizonDays, category⟩, ?_, values,
    features.values, ratio, deviation, hcolumn, hfeatures, hratio, hdeviation, rfl, rfl, rfl, rfl,
    rfl⟩
  rw [forecastAt_of_grid hgrid, hlatest, hmean]
  simp only [hratio, hdeviation, orAbort, bind, Except.bind, pure, Except.pure]

/-- Features need one row more than a mean, and the same column. -/
theorem exists_rollingMean_of_latest (hp : p.WellFormed)
    (hgrid : Grid.ofObservations p.settings.stepHours observations = .ok g) {r : Row}
    (hr : Lags.latest p.settings.numLags g category = .ok r) :
    ∃ x, g.rollingMean p.settings.numLags category = .ok x := by
  by_cases hrows : g.rowCount ≤ p.settings.numLags
  · rw [Lags.latest_of_build_error (Lags.build_of_fewRows hp.numLags_pos hrows)] at hr
    cases hr
  · rw [Nat.not_le] at hrows
    by_cases hknown : category ∈ g.columns
    · obtain ⟨i, values, hi, hvalues, -⟩ :=
        Grid.exists_column (Grid.rectangular_ofObservations hgrid) hknown
      exact ⟨_, Grid.rollingMean_eq hp.numLags_pos (Nat.le_of_lt hrows) hi hvalues⟩
    · rw [Lags.latest_of_build_error (Lags.build_of_unknown hp.numLags_pos hrows hknown)] at hr
      cases hr

/-- **The answers of a pipeline.**  Whatever was built has the trees and the settings that it was
built from, and answers as `AnswersTo` says to every category, time and list of observations that
stays within the calendar. -/
theorem build_answersTo {meanTree stdTree : DecisionTree} {settings : PipelineSettings}
    {p : Pipeline} (hbuild : build meanTree stdTree settings = .ok p) (category : String)
    {observations : List Observation} (generatedAt : Instant)
    (hcalendar : Grid.StaysInCalendar settings.stepHours observations) :
    p = ⟨meanTree, stdTree, settings⟩ ∧ p.AnswersTo category observations generatedAt := by
  obtain ⟨rfl, hp⟩ := build_eq_ok_iff.mp hbuild
  refine ⟨rfl, ?_⟩
  constructor
  case no_observations =>
    rintro rfl
    exact forecastAt_nil
  case exists_grid =>
    intro hne
    exact ⟨_, Grid.ofObservations_eq_ok hp.stepHours_pos hne hcalendar⟩
  case few_rows =>
    intro g hgrid hrows
    exact forecastAt_of_fewRows hp hgrid hrows
  case unknown =>
    intro g hgrid hrows hunknown
    exact forecastAt_of_unknown hp hgrid hrows hunknown
  case forecast =>
    intro g hgrid hrows hknown
    exact exists_forecastAt generatedAt hp hgrid hrows hknown
  case mean_exists =>
    intro g hgrid r hr
    exact exists_rollingMean_of_latest hp hgrid hr

/-- Prices of one category that fall and rise from day to day. -/
def dailyPrices : List Observation :=
  [⟨⟨0, 0⟩, 2.0, ⟨"m5.large", "Linux", "eu-west-1a"⟩⟩,
    ⟨⟨86400, 0⟩, 1.0, ⟨"m5.large", "Linux", "eu-west-1a"⟩⟩,
    ⟨⟨172800, 0⟩, 4.0, ⟨"m5.large", "Linux", "eu-west-1a"⟩⟩,
    ⟨⟨259200, 0⟩, 3.0, ⟨"m5.large", "Linux", "eu-west-1a"⟩⟩]

/-- A pipeline with two daily lags, whose trees look at one of them each. -/
def twoLags : Pipeline where
  meanTree := ⟨"mean", .split 1 1.0 (.leaf 0.5) (.leaf 2.0)⟩
  stdTree := ⟨"deviation", .split 0 1.0 (.leaf 0.1) (.leaf 0.2)⟩
  settings := ⟨24, 2, 7⟩

/-- The pipeline with two lags is built from its parts. -/
theorem build_twoLags :
    build twoLags.meanTree twoLags.stdTree twoLags.settings = .ok twoLags := by
  have hwell : twoLags.WellFormed := by
    refine ⟨by decide, by decide, ?_, ?_⟩
    · rw [Tree.requiredFeatures_eq]
      decide
    · rw [Tree.requiredFeatures_eq]
      decide
  exact build_eq_ok_iff.mpr ⟨rfl, hwell⟩

/-- The daily prices on a grid; the last of them is not before any grid point. -/
def dailyGrid : Grid :=
  ⟨["m5.large__Linux__eu-west-1a"], 24,
    [⟨⟨0, 0⟩, [2.0]⟩, ⟨⟨86400, 0⟩, [1.0]⟩, ⟨⟨172800, 0⟩, [4.0]⟩]⟩

theorem ofObservations_dailyPrices : Grid.ofObservations 24 dailyPrices = .ok dailyGrid := by
  have hsorted : dailyPrices.Pairwise (fun a b => a.time ≤ b.time) := by decide
  rw [Grid.ofObservations_of_pairwise (by decide) (by decide) (by decide) hsorted]
  decide +kernel

/-- The ratios of the daily prices end with 0.5 and 4.0, and the mean of the latest two prices
is 2.5.  The first tree doubles it. -/
theorem forecastAt_dailyPrices (generatedAt : Instant) :
    twoLags.forecastAt "m5.large__Linux__eu-west-1a" dailyPrices generatedAt =
      .ok ⟨5.0, 0.1, generatedAt, 7, "m5.large__Linux__eu-west-1a"⟩ := by
  have hlatest : Lags.latest 2 dailyGrid "m5.large__Linux__eu-west-1a" =
      .ok ⟨⟨172800, 0⟩, [0.5, 4.0]⟩ := by decide +kernel
  have hmean : dailyGrid.rollingMean 2 "m5.large__Linux__eu-west-1a" = .ok 2.5 := by
    decide +kernel
  have hratio : twoLags.meanTree.root.evaluate [0.5, 4.0] = some 2.0 := by decide +kernel
  have hdeviation : twoLags.stdTree.root.evaluate [0.5, 4.0] = some 0.1 := by decide +kernel
  have hproduct : (2.0 * 2.5 : Float) = 5.0 := by decide +kernel
  have hlags : twoLags.settings.numLags = 2 := rfl
  rw [forecastAt_of_grid ofObservations_dailyPrices, hlags, hlatest, hmean]
  simp only [orAbort, hratio, hdeviation, hproduct, bind, Except.bind, pure, Except.pure]
  rfl

/-- The pipeline with two lags answers to the daily prices with a forecast. -/
theorem build_answersTo_dailyPrices :
    build twoLags.meanTree twoLags.stdTree twoLags.settings = .ok twoLags ∧
      Grid.StaysInCalendar twoLags.settings.stepHours dailyPrices ∧
      twoLags.AnswersTo "m5.large__Linux__eu-west-1a" dailyPrices ⟨259200, 0⟩ ∧
      twoLags.forecastAt "m5.large__Linux__eu-west-1a" dailyPrices ⟨259200, 0⟩ =
        .ok ⟨5.0, 0.1, ⟨259200, 0⟩, 7, "m5.large__Linux__eu-west-1a"⟩ ∧
      twoLags.Foretells dailyGrid "m5.large__Linux__eu-west-1a" ⟨259200, 0⟩
        ⟨5.0, 0.1, ⟨259200, 0⟩, 7, "m5.large__Linux__eu-west-1a"⟩ := by
  have hcalendar : Grid.StaysInCalendar twoLags.settings.stepHours dailyPrices :=
    (Grid.fits_iff (by decide) (List.cons_ne_nil _ _)).mp (by decide)
  have hanswers :=
    (build_answersTo build_twoLags "m5.large__Linux__eu-west-1a" ⟨259200, 0⟩ hcalendar).2
  have hforecast := forecastAt_dailyPrices ⟨259200, 0⟩
  obtain ⟨f, hf, hforetells⟩ := hanswers.forecast dailyGrid ofObservations_dailyPrices
    (by decide) ⟨_, List.mem_cons_self, by decide +kernel⟩
  obtain rfl := Except.ok.inj (hforecast.symm.trans hf)
  exact ⟨build_twoLags, hcalendar, hanswers, hforecast, hforetells⟩

end SpotForecast.Pipeline
