import SpotForecast.Proofs.Pipeline.Outcome

/-!
# How long a history has to be

A forecast needs one row more than there are lags.  Rows lie a step apart, from the first
observation of the category up to its last one, so a history of so many steps always suffices and a
history of one step less never does.  In between it depends on how long after midnight the history
begins.

The history that is fetched goes back by whole days, and the settings say by how many.  So settings
alone can shut out every forecast, or admit one wherever prices reach over the whole window.
`SpanRule` states all four facts, `build_spanRule` proves them of every pipeline that was built.
Leap seconds are left out, because no length of time goes with them.
-/

namespace SpotForecast

/-- The number of nanoseconds of some hours. -/
def nanosOfHours (hours : Nat) : Int :=
  (hours * secondsPerHour : Nat) * Instant.nanosPerSecond

theorem nanosOfHours_le {hours hours' : Nat} (h : hours ≤ hours') :
    nanosOfHours hours ≤ nanosOfHours hours' := by
  simp only [nanosOfHours, secondsPerHour, Instant.nanosPerSecond]
  omega

namespace Pipeline

open History (Reads inWindow)

variable {p : Pipeline} {category : String} {observations : List Observation}
  {asOf start first last : Instant} {key : Category} {fetch : Fetch Id}

/-- Observations of one category last from one instant to another, without leap seconds and with a
grid that stays within the calendar. -/
structure Lasts (p : Pipeline) (category : String) (observations : List Observation)
    (first last : Instant) : Prop where
  name : ∀ o ∈ observations, o.name = category
  regular : ∀ o ∈ observations, o.time.Regular
  in_calendar : Grid.StaysInCalendar p.settings.stepHours observations
  first : (observations.map Observation.time).min? = some first
  last : (observations.map Observation.time).max? = some last

theorem Lasts.ne_nil (h : p.Lasts category observations first last) : observations ≠ [] := by
  rintro rfl
  cases h.first

theorem Lasts.first_regular (h : p.Lasts category observations first last) : first.Regular := by
  obtain ⟨o, ho, rfl⟩ := List.mem_map.mp (List.min?_eq_some_iff.mp h.first).1
  exact h.regular o ho

theorem Lasts.last_regular (h : p.Lasts category observations first last) : last.Regular := by
  obtain ⟨o, ho, rfl⟩ := List.mem_map.mp (List.max?_eq_some_iff.mp h.last).1
  exact h.regular o ho

/-- **Long enough.**  Where the rows that are needed fit between the first and the last observation
of a category, there is a forecast for it. -/
theorem Lasts.exists_forecastAt (h : p.Lasts category observations first last)
    (hp : p.WellFormed)
    (hspan : nanosOfHours ((p.settings.numLags + 1) * p.settings.stepHours) ≤
      first.nanosUntil last) (generatedAt : Instant) :
    ∃ f, p.forecastAt category observations generatedAt = .ok f ∧ f.category = category := by
  rw [nanosOfHours, Nat.mul_assoc] at hspan
  have hsteps := Instant.nextSecond_add_le h.first_regular h.last_regular hspan
  rw [Int.natCast_mul] at hsteps
  have hrows := Grid.le_length_gridRows hp.stepHours_pos h.ne_nil h.name h.first h.last hsteps
  have hgrid := Grid.ofObservations_eq_ok hp.stepHours_pos h.ne_nil h.in_calendar
  obtain ⟨o, ho⟩ := List.exists_mem_of_ne_nil _ h.ne_nil
  obtain ⟨f, hforecast, hsays⟩ :=
    Pipeline.exists_forecastAt generatedAt hp hgrid hrows ⟨o, ho, h.name o ho⟩
  exact ⟨f, hforecast, hsays.category_eq⟩

/-- **Too short.**  Where no more than one row for each lag fits between the first and the last
observation of a category, there are too few rows. -/
theorem Lasts.forecastAt_eq_error (h : p.Lasts category observations first last)
    (hp : p.WellFormed)
    (hspan : first.nanosUntil last ≤
      nanosOfHours (p.settings.numLags * p.settings.stepHours)) (generatedAt : Instant) :
    ∃ n, n ≤ p.settings.numLags ∧ p.forecastAt category observations generatedAt =
      .error (.fault (.insufficientData (p.settings.numLags + 1) n)) := by
  rw [nanosOfHours, Nat.mul_assoc] at hspan
  have hsteps := Instant.nextSecond_le_add h.first_regular h.last_regular hspan
  rw [Int.natCast_mul] at hsteps
  have hrows := Grid.length_gridRows_le hp.stepHours_pos h.ne_nil h.name h.first h.last hsteps
  have hgrid := Grid.ofObservations_eq_ok hp.stepHours_pos h.ne_nil h.in_calendar
  exact ⟨_, hrows, forecastAt_of_fewRows hp hgrid hrows⟩

/-- A category is read from a history without leap seconds, within the calendar. -/
structure ReadsRegularly (p : Pipeline) (fetch : Fetch Id) (observations : List Observation)
    (asOf : Instant) (category : String) : Prop where
  /-- The history is read directly, or through the slot without a timeout. -/
  reads : Reads fetch observations asOf
  regular : ∀ o ∈ observations, o.time.Regular
  asOf_regular : asOf.Regular
  in_calendar : p.WindowInCalendar category asOf observations

/-- What lies in a window, if anything does, lasts no longer than the window. -/
theorem ReadsRegularly.lasts (h : p.ReadsRegularly fetch observations asOf category)
    (hkey : Category.parse? category = some key)
    (hstart : asOf.daysBefore? p.settings.fetchDays = some start)
    (hne : observations.filter (inWindow key start asOf) ≠ []) :
    ∃ first last, p.Lasts category (observations.filter (inWindow key start asOf)) first last ∧
      start ≤ first ∧ last ≤ asOf := by
  obtain ⟨first, last, hfirst, hlast⟩ := Grid.exists_time_bounds hne
  have hcalendar := h.in_calendar.grid hkey hstart
  refine ⟨first, last, ⟨?_, ?_, hcalendar, hfirst, hlast⟩, ?_, ?_⟩
  · intro o ho
    exact History.name_of_mem_window hkey ho
  · intro o ho
    exact h.regular o (List.mem_filter.mp ho).1
  · obtain ⟨o, ho, rfl⟩ := List.mem_map.mp (List.min?_eq_some_iff.mp hfirst).1
    exact (History.inWindow_eq_true_iff.mp (List.mem_filter.mp ho).2).2.1
  · obtain ⟨o, ho, rfl⟩ := List.mem_map.mp (List.max?_eq_some_iff.mp hlast).1
    exact (History.inWindow_eq_true_iff.mp (List.mem_filter.mp ho).2).2.2

/-- The days that are fetched lie between the ends of the window. -/
theorem nanosUntil_of_window (hasOf : asOf.Regular)
    (hstart : asOf.daysBefore? p.settings.fetchDays = some start) :
    start.nanosUntil asOf = nanosOfHours ((p.settings.horizonDays + 1) * 24) := by
  rw [Instant.nanosUntil_of_daysBefore? hasOf hstart]
  simp only [PipelineSettings.fetchDays, nanosOfHours, secondsPerHour, Instant.secondsPerDay,
    Instant.nanosPerSecond]
  omega

/-- **Windows that are too short** for any history in them. -/
theorem ReadsRegularly.forecast_eq_error
    (h : p.ReadsRegularly fetch observations asOf category) (hp : p.WellFormed)
    (hdays : (p.settings.horizonDays + 1) * 24 ≤ p.settings.numLags * p.settings.stepHours)
    (generatedAt : Instant) :
    ∃ n, n ≤ p.settings.numLags ∧ p.forecast fetch category generatedAt =
      .error (.fault (.insufficientData (p.settings.numLags + 1) n)) := by
  cases hkey : Category.parse? category with
  | none => exact ⟨0, Nat.zero_le _, forecast_of_malformed h.reads hkey⟩
  | some key =>
      obtain ⟨start, hstart, -⟩ := h.in_calendar key hkey
      rw [forecast_of_key h.reads hkey hstart]
      by_cases hne : observations.filter (inWindow key start asOf) = []
      · rw [hne]
        exact ⟨0, Nat.zero_le _, forecastAt_nil⟩
      · obtain ⟨first, last, hlasts, hafter, hbefore⟩ := h.lasts hkey hstart hne
        have hregular := h.asOf_regular.of_daysBefore? hstart
        have hspan : first.nanosUntil last ≤
            nanosOfHours (p.settings.numLags * p.settings.stepHours) := calc
          first.nanosUntil last ≤ start.nanosUntil asOf :=
            Instant.nanosUntil_le hregular h.asOf_regular hlasts.first_regular
              hlasts.last_regular hafter hbefore
          _ = nanosOfHours ((p.settings.horizonDays + 1) * 24) :=
            nanosUntil_of_window h.asOf_regular hstart
          _ ≤ nanosOfHours (p.settings.numLags * p.settings.stepHours) := nanosOfHours_le hdays
        exact hlasts.forecastAt_eq_error hp hspan generatedAt

/-- **Windows that are long enough**, if the category was observed at both ends. -/
theorem ReadsRegularly.exists_forecast
    (h : p.ReadsRegularly fetch observations asOf category) (hp : p.WellFormed)
    (hdays : (p.settings.numLags + 1) * p.settings.stepHours ≤ (p.settings.horizonDays + 1) * 24)
    (hkey : Category.parse? category = some key)
    (hstart : asOf.daysBefore? p.settings.fetchDays = some start)
    (hfirst : ∃ o ∈ observations, o.category = key ∧ o.time = start)
    (hlast : ∃ o ∈ observations, o.category = key ∧ o.time = asOf) (generatedAt : Instant) :
    ∃ f, p.forecast fetch category generatedAt = .ok f ∧ f.category = category := by
  obtain ⟨o, ho, hcategory, htime⟩ := hfirst
  obtain ⟨o', ho', hcategory', htime'⟩ := hlast
  have hordered := Instant.le_of_daysBefore? h.asOf_regular hstart
  have hfound : o ∈ observations.filter (inWindow key start asOf) := by
    refine List.mem_filter.mpr ⟨ho, History.inWindow_eq_true_iff.mpr ⟨hcategory, ?_, ?_⟩⟩
    · exact le_of_eq htime.symm
    · rwa [htime]
  have hfound' : o' ∈ observations.filter (inWindow key start asOf) := by
    refine List.mem_filter.mpr ⟨ho', History.inWindow_eq_true_iff.mpr ⟨hcategory', ?_, ?_⟩⟩
    · rwa [htime']
    · exact le_of_eq htime'
  obtain ⟨first, last, hlasts, hafter, hbefore⟩ := h.lasts hkey hstart (List.ne_nil_of_mem hfound)
  -- nothing in the window is earlier than its start or later than its end
  have hfirst : first = start := by
    have hle := (List.min?_eq_some_iff.mp hlasts.first).2 o.time (List.mem_map_of_mem hfound)
    rw [htime] at hle
    exact le_antisymm hle hafter
  have hlast : last = asOf := by
    have hle := (List.max?_eq_some_iff.mp hlasts.last).2 o'.time (List.mem_map_of_mem hfound')
    rw [htime'] at hle
    exact le_antisymm hbefore hle
  have hspan : nanosOfHours ((p.settings.numLags + 1) * p.settings.stepHours) ≤
      first.nanosUntil last := by
    rw [hfirst, hlast, nanosUntil_of_window h.asOf_regular hstart]
    exact nanosOfHours_le hdays
  rw [forecast_of_key h.reads hkey hstart]
  exact hlasts.exists_forecastAt hp hspan generatedAt

/-- What lengths of time say about forecasts. -/
structure SpanRule (p : Pipeline) : Prop where
  long_enough : ∀ category observations first last,
    p.Lasts category observations first last →
    nanosOfHours ((p.settings.numLags + 1) * p.settings.stepHours) ≤ first.nanosUntil last →
    ∀ generatedAt, ∃ f, p.forecastAt category observations generatedAt = .ok f ∧
      f.category = category
  too_short : ∀ category observations first last,
    p.Lasts category observations first last →
    first.nanosUntil last ≤ nanosOfHours (p.settings.numLags * p.settings.stepHours) →
    ∀ generatedAt, ∃ n, n ≤ p.settings.numLags ∧
      p.forecastAt category observations generatedAt =
        .error (.fault (.insufficientData (p.settings.numLags + 1) n))
  /-- If the days that are fetched have no more steps than there are lags, there is no forecast,
  whatever the history, the end of the window and the category. -/
  never : (p.settings.horizonDays + 1) * 24 ≤ p.settings.numLags * p.settings.stepHours →
    ∀ fetch observations asOf category,
      p.ReadsRegularly fetch observations asOf category →
      ∀ generatedAt, ∃ n, n ≤ p.settings.numLags ∧ p.forecast fetch category generatedAt =
        .error (.fault (.insufficientData (p.settings.numLags + 1) n))
  /-- If the days that are fetched have one step more than there are lags, every category that was
  observed at both ends of its window has a forecast. -/
  always : (p.settings.numLags + 1) * p.settings.stepHours ≤ (p.settings.horizonDays + 1) * 24 →
    ∀ fetch observations asOf category key start,
      p.ReadsRegularly fetch observations asOf category →
      Category.parse? category = some key →
      asOf.daysBefore? p.settings.fetchDays = some start →
      (∃ o ∈ observations, o.category = key ∧ o.time = start) →
      (∃ o ∈ observations, o.category = key ∧ o.time = asOf) →
      ∀ generatedAt, ∃ f, p.forecast fetch category generatedAt = .ok f ∧ f.category = category

/-- **The rule of lengths.**  It holds of every pipeline that was built. -/
theorem build_spanRule {meanTree stdTree : DecisionTree} {settings : PipelineSettings}
    (hbuild : build meanTree stdTree settings = .ok p) : p.SpanRule := by
  obtain ⟨rfl, hp⟩ := build_eq_ok_iff.mp hbuild
  constructor
  case long_enough =>
    intro category observations first last h hspan
    exact h.exists_forecastAt hp hspan
  case too_short =>
    intro category observations first last h hspan
    exact h.forecastAt_eq_error hp hspan
  case never =>
    intro hdays fetch observations asOf category h
    exact h.forecast_eq_error hp hdays
  case always =>
    intro hdays fetch observations asOf category key start h hkey hstart hfirst hlast
    exact h.exists_forecast hp hdays hkey hstart hfirst hlast

/-- The trees of the pipeline with two daily lags, with a window of some days and one more. -/
def twoLagsFor (horizonDays : Nat) : Pipeline :=
  ⟨twoLags.meanTree, twoLags.stdTree, ⟨24, 2, horizonDays⟩⟩

theorem build_twoLagsFor (horizonDays : Nat) :
    build twoLags.meanTree twoLags.stdTree ⟨24, 2, horizonDays⟩ = .ok (twoLagsFor horizonDays) := by
  have hfits := (build_eq_ok_iff.mp build_twoLags).2
  exact build_eq_ok_iff.mpr
    ⟨rfl, Nat.succ_pos 23, Nat.succ_pos 1, hfits.meanTree_fits, hfits.stdTree_fits⟩

/-- The daily prices last for three days. -/
theorem lasts_dailyPrices : (twoLagsFor 2).Lasts "m5.large__Linux__eu-west-1a" dailyPrices
    ⟨0, 0⟩ ⟨259200, 0⟩ where
  name := by decide +kernel
  regular := by decide +kernel
  in_calendar := (Grid.fits_iff (by decide) (List.cons_ne_nil _ _)).mp (by decide)
  first := by decide +kernel
  last := by decide +kernel

/-- Without the last of them they last for two days. -/
theorem lasts_dailyPrices_take : (twoLagsFor 2).Lasts "m5.large__Linux__eu-west-1a"
    (dailyPrices.take 3) ⟨0, 0⟩ ⟨172800, 0⟩ where
  name := by decide +kernel
  regular := by decide +kernel
  in_calendar := (Grid.fits_iff (by decide) (List.cons_ne_nil _ _)).mp (by decide)
  first := by decide +kernel
  last := by decide +kernel

/-- The daily prices among what surrounds them, fetched directly. -/
def fetchSurrounded : Fetch Id :=
  fun category days => History.fetch surroundedPrices ⟨259200, 0⟩ category days

/-- With a window of two days or of three, they are read without leap seconds and within the
calendar. -/
theorem readsRegularly_surroundedPrices (horizonDays : Nat)
    (h : horizonDays = 1 ∨ horizonDays = 2) :
    (twoLagsFor horizonDays).ReadsRegularly fetchSurrounded surroundedPrices ⟨259200, 0⟩
      "m5.large__Linux__eu-west-1a" := by
  refine ⟨fun _ _ => Or.inl rfl, by decide +kernel, by decide, ?_⟩
  intro key hkey'
  cases parse?_dailyPrices.symm.trans hkey'
  rcases h with rfl | rfl
  · refine ⟨⟨86400, 0⟩, by decide +kernel, ?_⟩
    have hfound : surroundedPrices.filter (inWindow ⟨"m5.large", "Linux", "eu-west-1a"⟩
        ⟨86400, 0⟩ ⟨259200, 0⟩) = dailyPrices.drop 1 := by decide +kernel
    rw [hfound]
    exact (Grid.fits_iff (by decide) (List.cons_ne_nil _ _)).mp (by decide)
  · refine ⟨⟨0, 0⟩, by decide +kernel, ?_⟩
    have hfound : surroundedPrices.filter (inWindow ⟨"m5.large", "Linux", "eu-west-1a"⟩
        ⟨0, 0⟩ ⟨259200, 0⟩) = (surroundedPrices.drop 1).take 4 := by decide +kernel
    rw [hfound]
    exact (Grid.fits_iff (by decide) (List.cons_ne_nil _ _)).mp (by decide)

/-- Two daily lags need three days: the daily prices suffice, without the last of them they do not;
a window of two days is too short for any prices, one of three days is long enough for these. -/
theorem build_spanRule_dailyPrices :
    (∃ f, (twoLagsFor 2).forecastAt "m5.large__Linux__eu-west-1a" dailyPrices ⟨259200, 0⟩ =
        .ok f ∧ f.category = "m5.large__Linux__eu-west-1a") ∧
      (∃ n, n ≤ 2 ∧ (twoLagsFor 2).forecastAt "m5.large__Linux__eu-west-1a" (dailyPrices.take 3)
        ⟨259200, 0⟩ = .error (.fault (.insufficientData 3 n))) ∧
      (∃ n, n ≤ 2 ∧ (twoLagsFor 1).forecast fetchSurrounded "m5.large__Linux__eu-west-1a"
        ⟨259200, 0⟩ = .error (.fault (.insufficientData 3 n))) ∧
      ∃ f, (twoLagsFor 2).forecast fetchSurrounded "m5.large__Linux__eu-west-1a" ⟨259200, 0⟩ =
        .ok f ∧ f.category = "m5.large__Linux__eu-west-1a" := by
  have hrule := build_spanRule (build_twoLagsFor 2)
  have hshort := build_spanRule (build_twoLagsFor 1)
  refine ⟨?_, ?_, ?_, ?_⟩
  · exact hrule.long_enough _ _ _ _ lasts_dailyPrices (by decide) _
  · exact hrule.too_short _ _ _ _ lasts_dailyPrices_take (by decide) _
  · exact hshort.never (by decide) _ _ _ _ (readsRegularly_surroundedPrices 1 (Or.inl rfl)) _
  · exact hrule.always (by decide) _ _ _ _ ⟨"m5.large", "Linux", "eu-west-1a"⟩ ⟨0, 0⟩
      (readsRegularly_surroundedPrices 2 (Or.inr rfl)) parse?_dailyPrices (by decide +kernel)
      (by decide +kernel) (by decide +kernel) _

end Pipeline

end SpotForecast
