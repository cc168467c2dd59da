import SpotForecast.Proofs.Text.Runs
import SpotForecast.Service

/-!
# The gate of a service

A service lets a category through to its pipeline exactly if the registry lists it, and the registry
of a text lists the runs of the text between line breaks.

* `Registry.categories_ofText_eq_iff` reads a registry: it lists the runs of its text and nothing
  else, however the entries are spread over the text.
* `Fetch.onRecord` writes down how a fetch is called.  A pipeline calls it once
  (`Pipeline.forecast_onRecord`) and never refuses a category (`Pipeline.admits_forecast`), so a
  refusal and a silent fetch both tell that a category is not listed.

`Service.ofText_gated` puts these together.
-/

namespace SpotForecast

/-! ### Entries -/

/-- **Reading a registry.**  A text lists some entries exactly if these are its runs between line
breaks. -/
theorem Registry.categories_ofText_eq_iff {text : String} {entries : List String} :
    (ofText text).categories = entries ↔
      Text.Runs Text.isLineBreak text.toList (entries.map String.toList) := by
  have hlisted : (ofText text).categories =
      (Text.filled Text.isLineBreak text.toList).map String.ofList := rfl
  rw [← Text.filled_eq_iff, hlisted]
  constructor
  · rintro rfl
    simp [Function.comp_def]
  · intro h
    simp [h, Function.comp_def]

/-- A text lists a category exactly if this is a maximal run of it somewhere. -/
theorem Registry.mem_categories_ofText_iff {text category : String} :
    category ∈ (ofText text).categories ↔ ∃ before after,
      text.toList = before ++ (category.toList ++ after) ∧
        Text.IsMaximal Text.isLineBreak before category.toList after := by
  have hruns := categories_ofText_eq_iff.mp (rfl : (ofText text).categories = _)
  constructor
  · intro h
    obtain ⟨earlier, later, heq⟩ := List.append_of_mem h
    rw [heq, List.map_append, List.map_cons] at hruns
    obtain ⟨before, after, htext, hmaximal, -, -⟩ := hruns.exists_isMaximal
    exact ⟨before, after, htext, hmaximal⟩
  · rintro ⟨before, after, htext, hmaximal⟩
    obtain ⟨earlier, hbefore⟩ := Text.exists_runs Text.isLineBreak before
    obtain ⟨later, hafter⟩ := Text.exists_runs Text.isLineBreak after
    have hplace := hruns.eq_append_cons_iff.mpr
      ⟨before, after, htext, hmaximal, hbefore, hafter⟩
    have hmem : category.toList ∈ (ofText text).categories.map String.toList := by
      rw [hplace]
      simp
    obtain ⟨entry, hentry, heq⟩ := List.mem_map.mp hmem
    rwa [← String.toList_inj.mp heq]

example : (Registry.ofText "\n a \r\n\r\n__\u2028 a \x0b").categories = [" a ", "__", " a "] := by
  decide +kernel

/-! ### Refusals -/

variable {α β : Type}

/-- A computation does not end with the fault that a category is not listed. -/
def Admits (x : Except (Stop ForecastFault) α) : Prop :=
  ∀ category, x ≠ .error (.fault (.unsupportedCategory category))

theorem admits_ok (a : α) : Admits (.ok a) := by
  intro category h
  cases h

theorem Admits.bind {x : Except (Stop ForecastFault) α} {f : α → Except (Stop ForecastFault) β}
    (hx : Admits x) (hf : ∀ a, Admits (f a)) : Admits (x >>= f) := by
  cases x with
  | ok a => exact hf a
  | error e =>
      intro category h
      cases h
      exact hx category rfl

theorem admits_orAbort (a : Abort) (x : Option α) : Admits (orAbort a x) := by
  cases x with
  | some x => exact admits_ok x
  | none =>
      intro category h
      cases h

theorem Grid.admits_requireColumn (g : Grid) (name : String) :
    Admits (orFault (g.requireColumn name)) := by
  intro category h
  rw [requireColumn] at h
  split at h <;> cases h

theorem Grid.admits_ofObservations (stepHours : Nat) (observations : List Observation) :
    Admits (ofObservations stepHours observations) := by
  intro category h
  rw [ofObservations] at h
  split at h
  · split at h
    · cases h
    · simp only at h
      split at h <;> cases h
  · cases h

theorem Grid.admits_rollingMean (window : Nat) (g : Grid) (name : String) :
    Admits (g.rollingMean window name) := by
  rw [rollingMean]
  split
  · intro category h
    cases h
  · refine (g.admits_requireColumn name).bind fun column => ?_
    split
    · intro category h
      cases h
    · exact (admits_orAbort _ _).bind fun values => admits_ok _

theorem Lags.admits_latest (count : Nat) (g : Grid) (name : String) :
    Admits (latest count g name) := by
  have hbuild : Admits (build count g name) := by
    rw [build]
    split
    · intro category h
      cases h
    · split
      · intro category h
        cases h
      · exact (g.admits_requireColumn name).bind fun column =>
          (admits_orAbort _ _).bind fun values => admits_orAbort _ _
  refine hbuild.bind fun rows => ?_
  split
  · exact admits_ok _
  · intro category h
    cases h

namespace Pipeline

variable {p : Pipeline} {category : String} {fetch : Fetch Id} {now : Instant}

theorem admits_forecastAt (observations : List Observation) :
    Admits (p.forecastAt category observations now) := by
  rw [forecastAt]
  split
  · intro category h
    cases h
  · exact (Grid.admits_ofObservations _ _).bind fun grid =>
      (Lags.admits_latest _ _ _).bind fun features =>
        (Grid.admits_rollingMean _ _ _).bind fun mean =>
          (admits_orAbort _ _).bind fun ratio =>
            (admits_orAbort _ _).bind fun deviation => admits_ok _

theorem forecast_of_fetch (p : Pipeline) (fetch : Fetch Id) (category : String) (now : Instant) :
    p.forecast fetch category now =
      match ofFetch (fetch category p.settings.fetchDays) with
      | .ok observations => p.forecastAt category observations now
      | .error e => .error e :=
  rfl

/-- A pipeline takes any category, whatever it fetches. -/
theorem admits_forecast (p : Pipeline) (fetch : Fetch Id) (category : String) (now : Instant) :
    Admits (p.forecast fetch category now : Except (Stop ForecastFault) Forecast) := by
  rw [forecast_of_fetch]
  cases fetch category p.settings.fetchDays with
  | ok observations => exact admits_forecastAt observations
  | error e =>
      intro category h
      cases e <;> cases h

end Pipeline

/-! ### Calls -/

/-- How a fetch is called: for which category and for how many days. -/
abbrev Call := String × Nat

/-- A fetch that writes down how it is called. -/
def Fetch.onRecord (fetch : Fetch Id) : Fetch (StateM (List Call)) := fun category days => do
  modify (fun calls => calls ++ [(category, days)])
  pure (fetch category days)

/-- A pipeline fetches once. -/
theorem Pipeline.forecast_onRecord (p : Pipeline) (fetch : Fetch Id) (category : String)
    (now : Instant) (calls : List Call) :
    (p.forecast (Fetch.onRecord fetch) category now).run calls =
      (p.forecast fetch category now, calls ++ [(category, p.settings.fetchDays)]) := by
  rw [forecast_of_fetch]
  change StateT.run (match ofFetch (fetch category p.settings.fetchDays) with
    | .ok observations => pure (p.forecastAt category observations now)
    | .error e => pure (.error e)) (calls ++ [(category, p.settings.fetchDays)]) = _
  cases ofFetch (fetch category p.settings.fetchDays) with
  | ok observations => rfl
  | error e => rfl

/-! ### The service -/

namespace Service

/-- How a service answers whose registry was read from a text. -/
structure Gated (text : String) (s : Service) : Prop where
  /-- Line breaks are line feed, vertical tab, form feed, carriage return, next line, line separator
  and paragraph separator. -/
  lineBreak_iff : ∀ c, Text.isLineBreak c = true ↔
    c ∈ ['\n', '\x0b', '\x0c', '\r', '\u0085', '\u2028', '\u2029']
  listed_iff : ∀ entries, s.registry.categories = entries ↔
    Text.Runs Text.isLineBreak text.toList (entries.map String.toList)
  mem_iff : ∀ category, category ∈ s.registry.categories ↔ ∃ before after,
    text.toList = before ++ (category.toList ++ after) ∧
      Text.IsMaximal Text.isLineBreak before category.toList after
  supports_iff : ∀ category, s.supports category = true ↔ category ∈ s.registry.categories
  refused_iff : ∀ fetch category now,
    ((s.forecast (Fetch.onRecord fetch) category now).run []).1 =
      .error (.fault (.unsupportedCategory category)) ↔ category ∉ s.registry.categories
  no_calls_iff : ∀ fetch category now,
    ((s.forecast (Fetch.onRecord fetch) category now).run []).2 = [] ↔
      category ∉ s.registry.categories
  forecast_eq : ∀ {m : Type → Type} [Monad m] (fetch : Fetch m) category now,
    category ∈ s.registry.categories →
      s.forecast fetch category now = s.pipeline.forecast fetch category now

variable {s : Service} {category : String} {m : Type → Type} [Monad m]

theorem supports_iff : s.supports category = true ↔ category ∈ s.registry.categories :=
  Registry.contains_iff

theorem forecast_of_mem (h : category ∈ s.registry.categories) (fetch : Fetch m) (now : Instant) :
    s.forecast fetch category now = s.pipeline.forecast fetch category now := by
  rw [forecast, if_pos (supports_iff.mpr h)]

theorem forecast_of_notMem (h : category ∉ s.registry.categories) (fetch : Fetch m)
    (now : Instant) :
    s.forecast fetch category now = pure (.error (.fault (.unsupportedCategory category))) := by
  rw [forecast, if_neg (mt supports_iff.mp h)]

/-- A forecast on record is that of the pipeline after one call, or a refusal without any. -/
theorem forecast_onRecord (s : Service) (fetch : Fetch Id) (category : String) (now : Instant) :
    (s.forecast (Fetch.onRecord fetch) category now).run [] =
      if category ∈ s.registry.categories then
        (s.pipeline.forecast fetch category now, [(category, s.pipeline.settings.fetchDays)])
      else (.error (.fault (.unsupportedCategory category)), []) := by
  split
  · rename_i h
    rw [forecast_of_mem h, Pipeline.forecast_onRecord]
    rfl
  · rename_i h
    rw [forecast_of_notMem h]
    rfl

/-- **The gate.**  A service lets just the entries of its text through: these it leaves to its
pipeline, and all else it refuses without fetching anything. -/
theorem ofText_gated (text : String) (p : Pipeline) : Gated text ⟨p, Registry.ofText text⟩ where
  lineBreak_iff _ := Text.isLineBreak_iff
  listed_iff _ := Registry.categories_ofText_eq_iff
  mem_iff _ := Registry.mem_categories_ofText_iff
  supports_iff _ := supports_iff
  refused_iff fetch category now := by
    rw [forecast_onRecord]
    split
    · rename_i h
      exact iff_of_false (p.admits_forecast fetch category now category) (not_not_intro h)
    · rename_i h
      exact iff_of_true rfl h
  no_calls_iff fetch category now := by
    rw [forecast_onRecord]
    split
    · rename_i h
      exact iff_of_false (List.cons_ne_nil _ _) (not_not_intro h)
    · rename_i h
      exact iff_of_true rfl h
  forecast_eq fetch _ now h := forecast_of_mem h fetch now

end Service

end SpotForecast
