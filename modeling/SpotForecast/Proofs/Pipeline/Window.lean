import SpotForecast.History.Queue
import SpotForecast.Pipeline
import SpotForecast.Proofs.Grid.Reordering
import SpotForecast.Proofs.History.Window
import SpotForecast.Proofs.Pipeline.Answer

/-!
# What a forecast depends on

A forecast for a category sees the observations of that category in the window that is fetched, and
of these no more than the order of those with one time.  `forecast_sees_window` compares two runs,
over two lists of observations that look the same through the window: both give the same estimate
or fail in the same way.

* `Reads`: a pipeline reads its history directly, or through the slot without a timeout.
* `SameWindow`: two lists look the same through a window.
* `SameWindow.fetch_cases`: then both can be fetched or neither, and what is fetched is reordered.
* `forecastAt_eq_of_reordered`: a forecast does not depend on such an order.
-/

namespace SpotForecast

namespace History

variable {xs ys observations : List Observation} {asOf : Instant} {category : String}
  {days limit duration : Nat}

/-- A history is fetched directly, or through the slot by calls that end within the limit. -/
def Reads (fetch : Fetch Id) (observations : List Observation) (asOf : Instant) : Prop :=
  ∀ category days, fetch category days = History.fetch observations asOf category days ∨
    ∃ limit duration, duration ≤ limit ∧ fetch category days =
      fetchWithin limit category ⟨duration, History.fetch observations asOf category days⟩

/-- Two lists look the same through the window of a category: what lies in it is the same at every
time, in the same order. -/
def SameWindow (category : String) (days : Nat) (asOf : Instant) (xs ys : List Observation) :
    Prop :=
  ∀ key start, Category.parse? category = some key → asOf.daysBefore? days = some start →
    Grid.Reordered (xs.filter (inWindow key start asOf)) (ys.filter (inWindow key start asOf))

/-- The slot changes nothing about a call that ends within the limit. -/
theorem fetchWithin_eq_fetch (h : duration ≤ limit) :
    fetchWithin limit category ⟨duration, fetch observations asOf category days⟩ =
      fetch observations asOf category days := by
  rw [fetchWithin]
  cases hkey : Category.parse? category with
  | none => rw [fetch_of_malformed hkey]
  | some key => exact if_pos h

theorem Reads.eq_fetch {fetch : Fetch Id} (h : Reads fetch observations asOf) :
    fetch category days = History.fetch observations asOf category days := by
  rcases h category days with hdirect | ⟨limit, duration, hle, hslot⟩
  · exact hdirect
  · rw [hslot, fetchWithin_eq_fetch hle]

/-- Lists that look the same through a window are fetched alike. -/
theorem SameWindow.fetch_cases (h : SameWindow category days asOf xs ys) :
    (∃ e, fetch xs asOf category days = .error e ∧ fetch ys asOf category days = .error e) ∨
      ∃ found found', fetch xs asOf category days = .ok found ∧
        fetch ys asOf category days = .ok found' ∧ Grid.Reordered found found' := by
  cases hkey : Category.parse? category with
  | none =>
      exact Or.inr ⟨[], [], fetch_of_malformed hkey, fetch_of_malformed hkey, .refl []⟩
  | some key =>
      cases hstart : asOf.daysBefore? days with
      | none => exact Or.inl ⟨_, fetch_of_tooEarly hkey hstart, fetch_of_tooEarly hkey hstart⟩
      | some start =>
          exact Or.inr ⟨_, _, fetch_of_key hkey hstart, fetch_of_key hkey hstart,
            h key start hkey hstart⟩

/-- What lies outside the window can be left out. -/
theorem sameWindow_filter {q : Observation → Bool}
    (h : ∀ key start, Category.parse? category = some key → asOf.daysBefore? days = some start →
      ∀ o ∈ xs, inWindow key start asOf o = true → q o = true) :
    SameWindow category days asOf (xs.filter q) xs := by
  intro key start hkey hstart
  have hsame : (xs.filter q).filter (inWindow key start asOf) =
      xs.filter (inWindow key start asOf) := by
    rw [List.filter_filter]
    refine List.filter_congr fun o ho => ?_
    cases hin : inWindow key start asOf o with
    | false => rfl
    | true => exact h key start hkey hstart o ho hin
  rw [hsame]
  exact .refl _

end History

namespace Pipeline

open History (Reads SameWindow)

variable {p : Pipeline} {category : String} {xs ys : List Observation} {asOf : Instant}

/-- What a forecast says about prices, without the time at which it was made. -/
def estimate (result : Except (Stop ForecastFault) Forecast) :
    Except (Stop ForecastFault) (Float × Float) :=
  result.map fun f => (f.mean, f.stdDeviation)

/-- A forecast does not depend on how observations of different times were mixed. -/
theorem forecastAt_eq_of_reordered (h : Grid.Reordered xs ys) (generatedAt : Instant) :
    p.forecastAt category xs generatedAt = p.forecastAt category ys generatedAt := by
  simp only [forecastAt, h.isEmpty_eq, h.ofObservations_eq]

theorem map_bind_eq {ε α β γ : Type} (g : β → γ) (x : Except ε α) (f : α → Except ε β) :
    (x >>= f).map g = x >>= fun a => (f a).map g := by
  cases x with
  | error e => rfl
  | ok a => rfl

/-- A forecast that is made at another time is the same but for that time. -/
theorem forecastAt_redate (observations : List Observation) (t t' : Instant) :
    p.forecastAt category observations t' =
      (p.forecastAt category observations t).map (fun f => { f with generatedAt := t' }) := by
  by_cases hempty : observations.isEmpty = true
  · rw [forecastAt, forecastAt, if_pos hempty, if_pos hempty]
    rfl
  · rw [forecastAt, forecastAt, if_neg hempty, if_neg hempty]
    simp only [map_bind_eq]
    rfl

/-- An estimate does not depend on the time at which it is made. -/
theorem estimate_forecastAt (observations : List Observation) (t t' : Instant) :
    estimate (p.forecastAt category observations t) =
      estimate (p.forecastAt category observations t') := by
  rw [forecastAt_redate observations t t']
  cases p.forecastAt category observations t with
  | error e => rfl
  | ok f => rfl

theorem forecast_eq {fetch : Fetch Id} (h : Reads fetch xs asOf) (generatedAt : Instant) :
    p.forecast fetch category generatedAt =
      match ofFetch (History.fetch xs asOf category p.settings.fetchDays) with
      | .ok observations => p.forecastAt category observations generatedAt
      | .error e => .error e := by
  rw [← h.eq_fetch]
  rfl

/-- Two runs over lists that look the same through the window give the same estimate. -/
theorem estimate_forecast_eq {fetch fetch' : Fetch Id}
    (hsame : SameWindow category p.settings.fetchDays asOf xs ys) (hfetch : Reads fetch xs asOf)
    (hfetch' : Reads fetch' ys asOf) (t t' : Instant) :
    estimate (p.forecast fetch category t) = estimate (p.forecast fetch' category t') := by
  rw [forecast_eq hfetch, forecast_eq hfetch']
  rcases hsame.fetch_cases with ⟨e, hxs, hys⟩ | ⟨found, found', hxs, hys, hreordered⟩
  · rw [hxs, hys]
    cases e with
    | fault e => rfl
    | abort a => rfl
  · rw [hxs, hys]
    simp only [ofFetch]
    rw [forecastAt_eq_of_reordered hreordered]
    exact estimate_forecastAt found' t t'

/-- **No look-ahead and no cross-talk.**  Forecasts over two lists of observations that look the
same through the window of a category have the same estimate for it, or fail in the same way; and
observations that do not lie in the window may as well be left out, wherever they stand. -/
theorem forecast_sees_window {fetch fetch' : Fetch Id}
    (hsame : SameWindow category p.settings.fetchDays asOf xs ys) (hfetch : Reads fetch xs asOf)
    (hfetch' : Reads fetch' ys asOf) :
    (∀ t t', estimate (p.forecast fetch category t) = estimate (p.forecast fetch' category t')) ∧
      ∀ q : Observation → Bool,
        (∀ key start, Category.parse? category = some key →
          asOf.daysBefore? p.settings.fetchDays = some start → ∀ o ∈ xs,
            o.category = key → start ≤ o.time → o.time ≤ asOf → q o = true) →
        ∀ fetch'', Reads fetch'' (xs.filter q) asOf →
          ∀ t t', estimate (p.forecast fetch'' category t) =
            estimate (p.forecast fetch category t') := by
  refine ⟨estimate_forecast_eq hsame hfetch hfetch', fun q hq fetch'' hfetch'' => ?_⟩
  refine estimate_forecast_eq (History.sameWindow_filter ?_) hfetch'' hfetch
  intro key start hkey hstart o ho hin
  obtain ⟨hcategory, hafter, hbefore⟩ := History.inWindow_eq_true_iff.mp hin
  exact hq key start hkey hstart o ho hcategory hafter hbefore

/-- The daily prices, the first two of them the other way round, between a price of another
category and one of the day after. -/
def surroundedPrices : List Observation :=
  [⟨⟨86400, 0⟩, 9.0, ⟨"c5.large", "Linux", "eu-west-1a"⟩⟩,
    ⟨⟨86400, 0⟩, 1.0, ⟨"m5.large", "Linux", "eu-west-1a"⟩⟩,
    ⟨⟨0, 0⟩, 2.0, ⟨"m5.large", "Linux", "eu-west-1a"⟩⟩,
    ⟨⟨172800, 0⟩, 4.0, ⟨"m5.large", "Linux", "eu-west-1a"⟩⟩,
    ⟨⟨259200, 0⟩, 3.0, ⟨"m5.large", "Linux", "eu-west-1a"⟩⟩,
    ⟨⟨345600, 0⟩, 8.0, ⟨"m5.large", "Linux", "eu-west-1a"⟩⟩]

/-- On the third day, what surrounds the daily prices is not seen. -/
theorem sameWindow_surroundedPrices :
    SameWindow "m5.large__Linux__eu-west-1a" twoLags.settings.fetchDays ⟨259200, 0⟩ dailyPrices
      surroundedPrices := by
  have hkey : Category.parse? "m5.large__Linux__eu-west-1a" =
      some ⟨"m5.large", "Linux", "eu-west-1a"⟩ := by decide +kernel
  have hstart : Instant.daysBefore? ⟨259200, 0⟩ twoLags.settings.fetchDays =
      some ⟨-432000, 0⟩ := by decide +kernel
  intro key start hkey' hstart'
  cases hkey.symm.trans hkey'
  cases hstart.symm.trans hstart'
  have hdaily : dailyPrices.filter (History.inWindow ⟨"m5.large", "Linux", "eu-west-1a"⟩
      ⟨-432000, 0⟩ ⟨259200, 0⟩) = dailyPrices := by decide +kernel
  have hsurrounded : surroundedPrices.filter (History.inWindow
      ⟨"m5.large", "Linux", "eu-west-1a"⟩ ⟨-432000, 0⟩ ⟨259200, 0⟩) =
        (surroundedPrices.drop 1).take 4 := by decide +kernel
  rw [hdaily, hsurrounded]
  exact Grid.Reordered.swap (by decide) _

/-- Estimates from the daily prices do not change with what surrounds them. -/
theorem forecast_sees_window_surroundedPrices :
    ∃ fetch fetch' : Fetch Id,
      SameWindow "m5.large__Linux__eu-west-1a" twoLags.settings.fetchDays ⟨259200, 0⟩ dailyPrices
        surroundedPrices ∧
      Reads fetch dailyPrices ⟨259200, 0⟩ ∧ Reads fetch' surroundedPrices ⟨259200, 0⟩ ∧
      ∀ t t', estimate (twoLags.forecast fetch "m5.large__Linux__eu-west-1a" t) =
        estimate (twoLags.forecast fetch' "m5.large__Linux__eu-west-1a" t') := by
  have hdirect : Reads (fun category days => History.fetch dailyPrices ⟨259200, 0⟩ category days)
      dailyPrices ⟨259200, 0⟩ := fun _ _ => Or.inl rfl
  have hslot : Reads (fun category days => History.fetchWithin 10 category
      ⟨5, History.fetch surroundedPrices ⟨259200, 0⟩ category days⟩)
      surroundedPrices ⟨259200, 0⟩ := fun _ _ => Or.inr ⟨10, 5, by decide, rfl⟩
  exact ⟨_, _, sameWindow_surroundedPrices, hdirect, hslot,
    (forecast_sees_window sameWindow_surroundedPrices hdirect hslot).1⟩

end Pipeline

end SpotForecast
