import SpotForecast.Proofs.Category.Written
import SpotForecast.Proofs.Grid.RowCount
import SpotForecast.Proofs.Pipeline.Window

/-!
# How a forecast through a history ends

A pipeline by itself may be asked for a category that no observation has, and a grid by itself may
be asked for without observations.  Through a price history neither happens: what is found for a
category has its key, and the key of a text is written as that text, so all that is found has the
name that was asked for.  Then the grid has one column, and only the number of its rows decides.

* `ends_of_name`: from observations of one name there is a forecast or there are too few rows.
* `Concludes` and `build_concludes`: the same for every category and every history, with the
  category texts that are no keys.
-/

namespace SpotForecast

namespace History

variable {observations : List Observation} {asOf start : Instant} {category : String}
  {key : Category}

/-- What is found for a text has the text as its name. -/
theorem name_of_mem_window (hkey : Category.parse? category = some key) {o : Observation}
    (ho : o ∈ observations.filter (inWindow key start asOf)) : o.name = category := by
  obtain ⟨rfl, -, -⟩ := inWindow_eq_true_iff.mp (List.mem_filter.mp ho).2
  exact Category.canonical_of_parse? hkey

end History

namespace Pipeline

open History (Reads inWindow)

variable {p : Pipeline} {category : String} {observations : List Observation}
  {asOf start generatedAt : Instant} {key : Category} {fetch : Fetch Id}

/-- The window of a category begins within the calendar, and the grid of what lies in it does not
leave it. -/
def WindowInCalendar (p : Pipeline) (category : String) (asOf : Instant)
    (observations : List Observation) : Prop :=
  ∀ key, Category.parse? category = some key →
    ∃ start, asOf.daysBefore? p.settings.fetchDays = some start ∧
      Grid.StaysInCalendar p.settings.stepHours (observations.filter (inWindow key start asOf))

/-- What lies in the window, which has one start only, has a grid within the calendar. -/
theorem WindowInCalendar.grid (h : p.WindowInCalendar category asOf observations)
    (hkey : Category.parse? category = some key)
    (hstart : asOf.daysBefore? p.settings.fetchDays = some start) :
    Grid.StaysInCalendar p.settings.stepHours
      (observations.filter (inWindow key start asOf)) := by
  obtain ⟨start', hstart', hcalendar⟩ := h key hkey
  obtain rfl := Option.some.inj (hstart.symm.trans hstart')
  exact hcalendar

/-- A category that is no key has no observations, so there are too few. -/
theorem forecast_of_malformed (hfetch : Reads fetch observations asOf)
    (hkey : Category.parse? category = none) :
    p.forecast fetch category generatedAt =
      .error (.fault (.insufficientData (p.settings.numLags + 1) 0)) := by
  rw [forecast_eq hfetch, History.fetch_of_malformed hkey]
  rfl

/-- The forecast for a key is made from what lies in its window. -/
theorem forecast_of_key (hfetch : Reads fetch observations asOf)
    (hkey : Category.parse? category = some key)
    (hstart : asOf.daysBefore? p.settings.fetchDays = some start) :
    p.forecast fetch category generatedAt =
      p.forecastAt category (observations.filter (inWindow key start asOf)) generatedAt := by
  rw [forecast_eq hfetch, History.fetch_of_key hkey hstart]
  rfl

theorem Foretells.category_eq {g : Grid} {f : Forecast}
    (h : p.Foretells g category generatedAt f) : f.category = category := by
  obtain ⟨values, features, ratio, deviation, -, -, -, -, -, -, -, -, hcategory⟩ := h
  exact hcategory

/-- The two ends of a forecast for a category: there is one, or there were too few rows. -/
def Ends (p : Pipeline) (category : String)
    (result : Except (Stop ForecastFault) Forecast) : Prop :=
  (∃ f, result = .ok f ∧ f.category = category) ∨
    ∃ n, n ≤ p.settings.numLags ∧
      result = .error (.fault (.insufficientData (p.settings.numLags + 1) n))

/-- **One name.**  From observations that all have the name of the category, a forecast ends in one
of the two ways. -/
theorem ends_of_name (hp : p.WellFormed) (hname : ∀ o ∈ observations, o.name = category)
    (hcalendar : Grid.StaysInCalendar p.settings.stepHours observations) (generatedAt : Instant) :
    p.Ends category (p.forecastAt category observations generatedAt) := by
  by_cases hne : observations = []
  · subst hne
    exact Or.inr ⟨0, Nat.zero_le _, forecastAt_nil⟩
  · have hgrid := Grid.ofObservations_eq_ok hp.stepHours_pos hne hcalendar
    rcases Nat.lt_or_ge p.settings.numLags (Grid.rowCount _) with hrows | hrows
    · obtain ⟨o, ho⟩ := List.exists_mem_of_ne_nil _ hne
      obtain ⟨f, hforecast, hsays⟩ :=
        exists_forecastAt generatedAt hp hgrid hrows ⟨o, ho, hname o ho⟩
      exact Or.inl ⟨f, hforecast, hsays.category_eq⟩
    · exact Or.inr ⟨_, hrows, forecastAt_of_fewRows hp hgrid hrows⟩

/-- **One window.**  A forecast through a history ends in one of the two ways, as long as the window
of its category and its grid stay within the calendar. -/
theorem WindowInCalendar.ends (h : p.WindowInCalendar category asOf observations)
    (hp : p.WellFormed) (hfetch : Reads fetch observations asOf) (generatedAt : Instant) :
    p.Ends category (p.forecast fetch category generatedAt) := by
  cases hkey : Category.parse? category with
  | none => exact Or.inr ⟨0, Nat.zero_le _, forecast_of_malformed hfetch hkey⟩
  | some key =>
      obtain ⟨start, hstart, hcalendar⟩ := h key hkey
      rw [forecast_of_key hfetch hkey hstart]
      exact ends_of_name hp (fun o ho => History.name_of_mem_window hkey ho) hcalendar generatedAt

/-- How a forecast for a category through a history ends. -/
structure Concludes (p : Pipeline) (fetch : Fetch Id) (observations : List Observation)
    (asOf : Instant) (category : String) (generatedAt : Instant) : Prop where
  ends : p.Ends category (p.forecast fetch category generatedAt)
  malformed : Category.parse? category = none →
    p.forecast fetch category generatedAt =
      .error (.fault (.insufficientData (p.settings.numLags + 1) 0))
  /-- If something lies in the window of a key, its grid has one column, which is named as the
  category was asked for; and the number of rows decides which end there is. -/
  one_column : ∀ key start, Category.parse? category = some key →
    asOf.daysBefore? p.settings.fetchDays = some start →
    (∃ o ∈ observations, o.category = key ∧ start ≤ o.time ∧ o.time ≤ asOf) →
    ∃ g, Grid.ofObservations p.settings.stepHours
        (observations.filter (inWindow key start asOf)) = .ok g ∧
      g.columns = [category] ∧
      (g.rowCount ≤ p.settings.numLags → p.forecast fetch category generatedAt =
        .error (.fault (.insufficientData (p.settings.numLags + 1) g.rowCount))) ∧
      (p.settings.numLags < g.rowCount → ∃ f, p.forecast fetch category generatedAt = .ok f ∧
        p.Foretells g category generatedAt f)

/-- **The ends of a forecast.**  A pipeline that was built reads its history directly, or through
the slot without a timeout.  Then every category ends with a forecast or with too few rows, as long
as its window and its grid stay within the calendar. -/
theorem build_concludes {meanTree stdTree : DecisionTree} {settings : PipelineSettings}
    (hbuild : build meanTree stdTree settings = .ok p) (hfetch : Reads fetch observations asOf)
    (hwindow : p.WindowInCalendar category asOf observations) (generatedAt : Instant) :
    p.Concludes fetch observations asOf category generatedAt := by
  obtain ⟨rfl, hp⟩ := build_eq_ok_iff.mp hbuild
  constructor
  case ends => exact hwindow.ends hp hfetch generatedAt
  case malformed => exact forecast_of_malformed hfetch
  case one_column =>
    rintro key start hkey hstart ⟨o, ho, hin⟩
    have hfound : o ∈ observations.filter (inWindow key start asOf) :=
      List.mem_filter.mpr ⟨ho, History.inWindow_eq_true_iff.mpr hin⟩
    have hne := List.ne_nil_of_mem hfound
    have hname : ∀ o ∈ observations.filter (inWindow key start asOf), o.name = category :=
      fun o ho => History.name_of_mem_window hkey ho
    have hgrid := Grid.ofObservations_eq_ok hp.stepHours_pos hne (hwindow.grid hkey hstart)
    refine ⟨_, hgrid, Grid.columnsOf_eq_singleton hne hname, ?_, ?_⟩
    · intro hrows
      rw [forecast_of_key hfetch hkey hstart]
      exact forecastAt_of_fewRows hp hgrid hrows
    · intro hrows
      rw [forecast_of_key hfetch hkey hstart]
      exact exists_forecastAt generatedAt hp hgrid hrows ⟨o, hfound, hname o hfound⟩

/-- The key of the daily prices. -/
theorem parse?_dailyPrices : Category.parse? "m5.large__Linux__eu-west-1a" =
    some ⟨"m5.large", "Linux", "eu-west-1a"⟩ := by
  decide +kernel

/-- On the third day, the window of the daily prices and its grid stay within the calendar, whatever
surrounds these prices. -/
theorem windowInCalendar_surroundedPrices :
    twoLags.WindowInCalendar "m5.large__Linux__eu-west-1a" ⟨259200, 0⟩ surroundedPrices := by
  have hstart : Instant.daysBefore? ⟨259200, 0⟩ twoLags.settings.fetchDays =
      some ⟨-432000, 0⟩ := by decide +kernel
  have hfound : surroundedPrices.filter (inWindow ⟨"m5.large", "Linux", "eu-west-1a"⟩
      ⟨-432000, 0⟩ ⟨259200, 0⟩) = (surroundedPrices.drop 1).take 4 := by decide +kernel
  intro key hkey'
  cases parse?_dailyPrices.symm.trans hkey'
  refine ⟨⟨-432000, 0⟩, hstart, ?_⟩
  rw [hfound]
  exact (Grid.fits_iff (by decide) (List.cons_ne_nil _ _)).mp (by decide)

/-- Through the slot, forecasts from the daily prices and what surrounds them end in one of the two
ways. -/
theorem build_concludes_surroundedPrices :
    ∃ fetch : Fetch Id,
      build twoLags.meanTree twoLags.stdTree twoLags.settings = .ok twoLags ∧
      Reads fetch surroundedPrices ⟨259200, 0⟩ ∧
      twoLags.WindowInCalendar "m5.large__Linux__eu-west-1a" ⟨259200, 0⟩ surroundedPrices ∧
      twoLags.Concludes fetch surroundedPrices ⟨259200, 0⟩ "m5.large__Linux__eu-west-1a"
        ⟨259200, 0⟩ := by
  have hslot : Reads (fun category days => History.fetchWithin 10 category
      ⟨5, History.fetch surroundedPrices ⟨259200, 0⟩ category days⟩)
      surroundedPrices ⟨259200, 0⟩ := fun _ _ => Or.inr ⟨10, 5, by decide, rfl⟩
  exact ⟨_, build_twoLags, hslot, windowInCalendar_surroundedPrices,
    build_concludes build_twoLags hslot windowInCalendar_surroundedPrices ⟨259200, 0⟩⟩

end Pipeline

end SpotForecast
