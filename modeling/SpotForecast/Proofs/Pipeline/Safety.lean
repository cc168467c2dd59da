import SpotForecast.Proofs.Lags.Views
import SpotForecast.Proofs.Pipeline.Answer
import SpotForecast.Proofs.Tree.Spelling

/-!
# What a pipeline never does

A pipeline that was built never ends with an abort, whatever the prices are: a price may be zero,
negative, infinite or no number, and then a ratio may be infinite or no number, but a tree finds a
branch for every feature.  All rows, values and features that are asked for are there.  The standard
deviation of a forecast is always a finite number that the definition of its tree has at a leaf.

`forecastAt_cases` reduces this to the two ways in which a forecast ends, `forecastAt_safe` states
it for trees that were loaded from definitions.
-/

namespace SpotForecast.Pipeline

/-- **Two ends.**  A forecast ends with a fault, or there is one and its standard deviation is the
answer of its tree. -/
theorem forecastAt_cases {p : Pipeline} (hp : p.WellFormed) (category : String)
    {observations : List Observation} (generatedAt : Instant)
    (hcalendar : Grid.StaysInCalendar p.settings.stepHours observations) :
    (∃ e, p.forecastAt category observations generatedAt = .error (.fault e)) ∨
      ∃ f features, p.forecastAt category observations generatedAt = .ok f ∧
        p.stdTree.root.evaluate features = some f.stdDeviation := by
  by_cases hne : observations = []
  · subst hne
    exact Or.inl ⟨_, forecastAt_nil⟩
  · have hgrid := Grid.ofObservations_eq_ok hp.stepHours_pos hne hcalendar
    rcases Nat.lt_or_ge p.settings.numLags (Grid.rowCount _) with hrows | hrows
    · by_cases hknown : ∃ o ∈ observations, o.name = category
      · obtain ⟨f, hforecast, values, features, ratio, deviation, -, -, -, hdeviation, -, hf, -⟩ :=
          exists_forecastAt generatedAt hp hgrid hrows hknown
        exact Or.inr ⟨f, features, hforecast, by rw [hf, hdeviation]⟩
      · exact Or.inl ⟨_, forecastAt_of_unknown hp hgrid hrows hknown⟩
    · exact Or.inl ⟨_, forecastAt_of_fewRows hp hgrid hrows⟩

/-- A forecast from observations stays inside its domain, and its standard deviation is written in
the definition of its tree. -/
structure Safe (p : Pipeline) (stdDefinition : Json) (category : String)
    (observations : List Observation) (generatedAt : Instant) : Prop where
  /-- No feature, row, value or column is asked for that is not there, and no grid point past the
  end of the calendar. -/
  no_abort : ∀ a, p.forecastAt category observations generatedAt ≠ .error (.abort a)
  /-- Where there are features, there are more rows than lags, and all values that the features are
  made of can be looked up, each by itself. -/
  features_read : ∀ g features, Grid.ofObservations p.settings.stepHours observations = .ok g →
    Lags.build p.settings.numLags g category = .ok features →
    p.settings.numLags < g.rowCount ∧
      ∃ i values, g.requireColumn category = .ok i ∧ g.columnValues i = some values ∧
        (List.range (g.rowCount - p.settings.numLags)).mapM (fun place =>
          Lags.featuresAt? p.settings.numLags g.rows values (place + p.settings.numLags)) =
            some features
  deviation_written : ∀ f, p.forecastAt category observations generatedAt = .ok f →
    f.stdDeviation.isFinite = true ∧
      ∃ node, Tree.StandsAt stdDefinition node ∧ Tree.LeafNumber node f.stdDeviation

/-- **Safety.**  Nothing that a pipeline does is outside its domain.  Where the tree for the
standard deviation was loaded from a definition, every standard deviation is a finite number at a
leaf of that definition. -/
theorem forecastAt_safe {meanTree stdTree : DecisionTree} {stdName : String}
    {stdDefinition : Json} {settings : PipelineSettings} {p : Pipeline}
    (hstd : DecisionTree.load stdName stdDefinition = .ok stdTree)
    (hbuild : build meanTree stdTree settings = .ok p) (category : String)
    {observations : List Observation} (generatedAt : Instant)
    (hcalendar : Grid.StaysInCalendar settings.stepHours observations) :
    p.Safe stdDefinition category observations generatedAt := by
  obtain ⟨rfl, hp⟩ := build_eq_ok_iff.mp hbuild
  have hcases := forecastAt_cases hp category generatedAt hcalendar
  constructor
  case no_abort =>
    intro a habort
    rcases hcases with ⟨e, hfault⟩ | ⟨f, features, hforecast, -⟩
    · cases hfault.symm.trans habort
    · cases hforecast.symm.trans habort
  case features_read =>
    intro g features _ hfeatures
    obtain ⟨-, hrows, -⟩ := Lags.of_build_ok hfeatures
    exact ⟨hrows, Grid.exists_featuresAt?_of_build hfeatures⟩
  case deviation_written =>
    intro f hf
    rcases hcases with ⟨e, hfault⟩ | ⟨f', features, hforecast, hdeviation⟩
    · cases hfault.symm.trans hf
    · obtain rfl := Except.ok.inj (hforecast.symm.trans hf)
      have hleaf := Tree.evaluate_leafNumber hstd hdeviation
      exact ⟨hleaf.isFinite, _, Tree.standsAt_iff.mpr rfl, hleaf⟩

/-- Prices of one category that are zero, negative, infinite and no number. -/
def strangePrices : List Observation :=
  [⟨⟨0, 0⟩, 0.0, ⟨"m5.large", "Linux", "eu-west-1a"⟩⟩,
    ⟨⟨86400, 0⟩, -1.0, ⟨"m5.large", "Linux", "eu-west-1a"⟩⟩,
    ⟨⟨172800, 0⟩, 1.0 / 0.0, ⟨"m5.large", "Linux", "eu-west-1a"⟩⟩,
    ⟨⟨259200, 0⟩, 0.0 / 0.0, ⟨"m5.large", "Linux", "eu-west-1a"⟩⟩]

/-- A definition with a split and two leaves, one of them in a union. -/
def splitDefinition : Json :=
  .object [("field", .string "lag_00"), ("operator", .string "<="), ("value", .number (.real 1.0)),
    ("pass", .number (.real 0.1)), ("fail", .object [("double", .number (.real 0.2))])]

/-- The strange prices on a grid.  Both of their ratios are the negative infinity. -/
def strangeGrid : Grid :=
  ⟨["m5.large__Linux__eu-west-1a"], 24,
    [⟨⟨0, 0⟩, [0.0]⟩, ⟨⟨86400, 0⟩, [-1.0]⟩, ⟨⟨172800, 0⟩, [1.0 / 0.0]⟩]⟩

/-- The trees still find their branches, and the infinite mean is one. -/
theorem forecastAt_strangePrices (generatedAt : Instant) :
    twoLags.forecastAt "m5.large__Linux__eu-west-1a" strangePrices generatedAt =
      .ok ⟨1.0 / 0.0, 0.1, generatedAt, 7, "m5.large__Linux__eu-west-1a"⟩ := by
  have hsorted : strangePrices.Pairwise (fun a b => a.time ≤ b.time) := by decide
  have hgrid : Grid.ofObservations 24 strangePrices = .ok strangeGrid := by
    rw [Grid.ofObservations_of_pairwise (by decide) (by decide) (by decide) hsorted]
    decide +kernel
  have hlatest : Lags.latest 2 strangeGrid "m5.large__Linux__eu-west-1a" =
      .ok ⟨⟨172800, 0⟩, [-1.0 / 0.0, -1.0 / 0.0]⟩ := by decide +kernel
  have hmean : strangeGrid.rollingMean 2 "m5.large__Linux__eu-west-1a" = .ok (1.0 / 0.0) := by
    decide +kernel
  have hratio : twoLags.meanTree.root.evaluate [-1.0 / 0.0, -1.0 / 0.0] = some 0.5 := by
    decide +kernel
  have hdeviation : twoLags.stdTree.root.evaluate [-1.0 / 0.0, -1.0 / 0.0] = some 0.1 := by
    decide +kernel
  have hproduct : (0.5 * (1.0 / 0.0) : Float) = 1.0 / 0.0 := by decide +kernel
  have hlags : twoLags.settings.numLags = 2 := rfl
  rw [forecastAt_of_grid hgrid, hlags, hlatest, hmean]
  simp only [orAbort, hratio, hdeviation, hproduct, bind, Except.bind, pure, Except.pure]
  rfl

/-- With a tree that was loaded from the definition with a split, a pipeline stays safe on the
strange prices, and 0.1 is the number at a leaf that it answers with. -/
theorem forecastAt_safe_strangePrices :
    DecisionTree.load "deviation" splitDefinition = .ok twoLags.stdTree ∧
      build twoLags.meanTree twoLags.stdTree twoLags.settings = .ok twoLags ∧
      Grid.StaysInCalendar twoLags.settings.stepHours strangePrices ∧
      twoLags.Safe splitDefinition "m5.large__Linux__eu-west-1a" strangePrices ⟨259200, 0⟩ ∧
      twoLags.forecastAt "m5.large__Linux__eu-west-1a" strangePrices ⟨259200, 0⟩ =
        .ok ⟨1.0 / 0.0, 0.1, ⟨259200, 0⟩, 7, "m5.large__Linux__eu-west-1a"⟩ ∧
      Tree.LeafNumber splitDefinition 0.1 := by
  have hname : Lags.index? "lag_00" = some 0 := by decide +kernel
  have hone : (Json.Number.real 1.0).toFloat? = some 1.0 := by decide +kernel
  have hdenotes : Tree.Denotes splitDefinition twoLags.stdTree.root := by
    refine .split rfl rfl ?_ ?_ rfl (.leaf ?_) rfl (.union rfl (.leaf ?_))
    · simp only [Tree.readField, hname]
    · simp [Tree.readThreshold, Json.lookup, Tree.threshold?, hone]
    · decide +kernel
    · decide +kernel
  have hstart : Tree.start splitDefinition = splitDefinition := rfl
  have hload : DecisionTree.load "deviation" splitDefinition = .ok twoLags.stdTree := by
    rw [DecisionTree.load, hstart, Tree.ofJson_eq_ok_iff.mpr hdenotes]
    rfl
  have hcalendar : Grid.StaysInCalendar twoLags.settings.stepHours strangePrices :=
    (Grid.fits_iff (by decide) (List.cons_ne_nil _ _)).mp (by decide)
  have hsafe := forecastAt_safe hload build_twoLags "m5.large__Linux__eu-west-1a" ⟨259200, 0⟩
    hcalendar
  have hforecast := forecastAt_strangePrices ⟨259200, 0⟩
  obtain ⟨-, node, hnode, hleaf⟩ := hsafe.deviation_written _ hforecast
  obtain rfl := (Tree.standsAt_iff.mp hnode).trans hstart
  exact ⟨hload, build_twoLags, hcalendar, hsafe, hforecast, hleaf⟩

end SpotForecast.Pipeline
