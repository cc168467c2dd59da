import SpotForecast.Proofs.Calendar.RoundTrip
import SpotForecast.Proofs.Feed.Rows
import SpotForecast.Proofs.Json.RoundTrip
import SpotForecast.Proofs.Pipeline.Safety

/-!
# Forecasts that are written and read

A price may be infinite or no number, and then so may the mean of a forecast.  Its text has `null`
for such a mean, and `null` is no number, so the text cannot be read as a forecast.  The standard
deviation stands at a leaf of its tree, so it is always finite.

`forecastAt_readBack` says that this is all that can get in the way: a forecast with a finite mean
is read back from its text, with the time that the text shows (`Forecast.asShown`).  That is the
time of the forecast itself unless that one has a leap second inside a minute.
-/

namespace SpotForecast

open Json (Written)

namespace Forecast

variable {f : Forecast} {out : String}

/-- The texts of a forecast: one line, or several. -/
def texts (f : Forecast) : List String :=
  [f.toJson.compact, f.toJson.pretty]

/-- A forecast with the time that is shown for it. -/
def asShown (f : Forecast) : Forecast :=
  { f with generatedAt := f.generatedAt.shown }

theorem asShown_eq_iff : f.asShown = f ↔ f.generatedAt.Proper := by
  rw [← Instant.shown_eq_iff]
  constructor
  · intro h
    exact congrArg generatedAt h
  · intro h
    rw [asShown, h]

/-- A forecast in the form in which it has to be to have a text: its time lies in the calendar and
has less than two seconds of nanoseconds, and its days have 32 bits. -/
structure Writable (f : Forecast) : Prop where
  inCalendar : f.generatedAt.inCalendar = true
  nanos_lt : f.generatedAt.nanos < 2 * Instant.nanosPerSecond
  horizonDays_lt : f.horizonDays < horizonLimit

/-- The prices of a forecast are read back from their texts, as far as these are numbers. -/
structure PricesReadBack (f : Forecast) : Prop where
  mean : (Json.Number.real f.mean).ReadsBack
  stdDeviation : (Json.Number.real f.stdDeviation).ReadsBack

theorem float?_written (x : Float) :
    (Json.Number.real x).written.float? = if x.isFinite then some x else none := by
  rw [Json.Number.written, Json.Number.isFinite]
  cases hx : x.isFinite with
  | false => rfl
  | true => simp [Written.float?, Json.Number.toFloat?, hx]

theorem parts?_ofJson (f : Forecast) : Written.parts? memberNames (Written.ofJson f.toJson) =
    some [(Json.Number.real f.mean).written, (Json.Number.real f.stdDeviation).written,
      .string (some f.generatedAt.rfc3339), .number (some (.integer f.horizonDays)),
      .string (some f.category)] :=
  rfl

/-- What is written for a forecast is read as the forecast, if both of its prices are finite. -/
theorem ofWritten?_ofJson (hf : f.Writable) : ofWritten? (Written.ofJson f.toJson) =
    if f.mean.isFinite ∧ f.stdDeviation.isFinite then some f.asShown else none := by
  have htime := Instant.ofDocument?_rfc3339 hf.inCalendar hf.nanos_lt
  have hdays : Written.natBelow? horizonLimit (.number (some (.integer f.horizonDays))) =
      some f.horizonDays := by
    have hrange : 0 ≤ (f.horizonDays : Int) ∧ (f.horizonDays : Int) < horizonLimit :=
      ⟨Int.natCast_nonneg _, Int.ofNat_lt.mpr hf.horizonDays_lt⟩
    rw [Written.natBelow?, if_pos hrange, Int.toNat_natCast]
  rw [ofWritten?, parts?_ofJson]
  simp only [Written.text?, float?_written, htime, hdays, Option.bind_eq_bind, Option.bind_some]
  cases f.mean.isFinite <;> cases f.stdDeviation.isFinite <;> rfl

/-- **Texts.**  From both of its texts a forecast is read, if its prices are finite. -/
theorem read?_of_mem_texts (hf : f.Writable) (hprices : f.PricesReadBack) (hout : out ∈ f.texts) :
    read? out = if f.mean.isFinite ∧ f.stdDeviation.isFinite then some f.asShown else none := by
  have hdays : (Json.Number.integer f.horizonDays).ReadsBack := by
    apply Json.readsBack_integer
    · exact Int.le_trans (by decide) (Int.natCast_nonneg _)
    · exact Int.ofNat_lt.mpr (Nat.lt_trans hf.horizonDays_lt (by decide))
  have hnumbers : f.toJson.NumbersReadBack :=
    ⟨hprices.mean, hprices.stdDeviation, trivial, hdays, trivial, trivial⟩
  have hwritten : Json.written? out = some (Written.ofJson f.toJson) := by
    simp only [texts, List.mem_cons, List.not_mem_nil, or_false] at hout
    rcases hout with rfl | rfl
    · exact Json.written?_compact hnumbers
    · exact Json.written?_pretty hnumbers
  rw [read?, hwritten, Option.bind_some, ofWritten?_ofJson hf]

end Forecast

namespace Pipeline

variable {meanTree stdTree : DecisionTree} {settings : PipelineSettings} {p : Pipeline}
  {category : String} {observations : List Observation} {generatedAt : Instant} {f : Forecast}

/-- A computation that ends well has a first step that ends well. -/
theorem exists_of_bind_eq_ok {ε α β : Type} {x : Except ε α} {k : α → Except ε β} {b : β}
    (h : x >>= k = .ok b) : ∃ a, x = .ok a ∧ k a = .ok b := by
  cases x with
  | error e => cases h
  | ok a => exact ⟨a, rfl, h⟩

theorem eq_some_of_orAbort {ε α : Type} {a : Abort} {x : Option α} {b : α}
    (h : (orAbort a x : Except (Stop ε) α) = .ok b) : x = some b := by
  cases x with
  | none => cases h
  | some c => exact congrArg some (Except.ok.inj h)

/-- A forecast has the answer of its tree, and the time and the days that it was asked for. -/
theorem of_forecastAt_ok (h : p.forecastAt category observations generatedAt = .ok f) :
    (∃ features, p.stdTree.root.evaluate features = some f.stdDeviation) ∧
      f.generatedAt = generatedAt ∧ f.horizonDays = p.settings.horizonDays := by
  by_cases hempty : observations = []
  · subst hempty
    rw [forecastAt_nil] at h
    cases h
  · rw [forecastAt, if_neg (by simpa using hempty)] at h
    obtain ⟨grid, -, h⟩ := exists_of_bind_eq_ok h
    obtain ⟨features, -, h⟩ := exists_of_bind_eq_ok h
    obtain ⟨priorMean, -, h⟩ := exists_of_bind_eq_ok h
    obtain ⟨ratio, -, h⟩ := exists_of_bind_eq_ok h
    obtain ⟨deviation, hdeviation, h⟩ := exists_of_bind_eq_ok h
    cases h
    exact ⟨⟨features.values, eq_some_of_orAbort hdeviation⟩, rfl, rfl⟩

/-- **Reading back.**  Whatever the observations and the tree for the mean are, a forecast is read
from its texts exactly if its mean is finite, and with the time that they show.  Its prices have to
be read back where they stand alone: the reader of numbers rounds twice, so it may miss a double. -/
theorem forecastAt_readBack {stdName : String} {stdDefinition : Json}
    (hstd : DecisionTree.load stdName stdDefinition = .ok stdTree)
    (hbuild : build meanTree stdTree settings = .ok p)
    (hdays : settings.horizonDays < Forecast.horizonLimit)
    (hcalendar : generatedAt.inCalendar = true)
    (hnanos : generatedAt.nanos < 2 * Instant.nanosPerSecond)
    (hforecast : p.forecastAt category observations generatedAt = .ok f)
    (hprices : f.PricesReadBack) :
    f.stdDeviation.isFinite = true ∧ ∀ out ∈ f.texts,
      Forecast.read? out = (if f.mean.isFinite then some f.asShown else none) ∧
        (Forecast.read? out = some f ↔ f.mean.isFinite = true ∧ generatedAt.Proper) := by
  obtain ⟨rfl, -⟩ := build_eq_ok_iff.mp hbuild
  obtain ⟨⟨features, hanswer⟩, rfl, hhorizon⟩ := of_forecastAt_ok hforecast
  have hfinite := (Tree.evaluate_leafNumber hstd hanswer).isFinite
  have hwritable : f.Writable := ⟨hcalendar, hnanos, hhorizon ▸ hdays⟩
  refine ⟨hfinite, ?_⟩
  intro out hout
  have hread : Forecast.read? out = if f.mean.isFinite then some f.asShown else none := by
    rw [Forecast.read?_of_mem_texts hwritable hprices hout]
    simp only [hfinite, and_true]
  refine ⟨hread, ?_⟩
  rw [hread, Option.ite_none_right_eq_some, Option.some.injEq, Forecast.asShown_eq_iff]

/-- A feed of two categories, one of which has an infinite price. -/
def infiniteFeed : String :=
  "0\t1.5\t1970-01-01T00:00:00Z\ta\tLinux\tz1\n0\tinf\t1970-01-01T00:00:00Z\tb\tLinux\tz1\n" ++
    "0\t1.5\t1970-01-03T00:00:00Z\ta\tLinux\tz1\n"

def infinitePrices : List Observation :=
  [⟨⟨0, 0⟩, 1.5, ⟨"a", "Linux", "z1"⟩⟩, ⟨⟨0, 0⟩, Decimal.infinity, ⟨"b", "Linux", "z1"⟩⟩,
    ⟨⟨172800, 0⟩, 1.5, ⟨"a", "Linux", "z1"⟩⟩]

def infiniteGrid : Grid :=
  ⟨["a__Linux__z1", "b__Linux__z1"], 24,
    [⟨⟨0, 0⟩, [1.5, Decimal.infinity]⟩, ⟨⟨86400, 0⟩, [1.5, Decimal.infinity]⟩]⟩

/-- A pipeline with one daily lag, whose trees have one leaf each. -/
def oneLeaf : Pipeline where
  meanTree := ⟨"mean", .leaf 1.0⟩
  stdTree := ⟨"deviation", .leaf 0.25⟩
  settings := ⟨24, 1, 7⟩

/-- What the pipeline with one leaf expects of a category. -/
def leafForecast (category : String) (mean : Float) (generatedAt : Instant) : Forecast :=
  ⟨mean, 0.25, generatedAt, 7, category⟩

theorem ofObservations_infinitePrices :
    Grid.ofObservations 24 infinitePrices = .ok infiniteGrid := by
  have hsorted : infinitePrices.Pairwise (fun a b => a.time ≤ b.time) := by decide
  rw [Grid.ofObservations_of_pairwise (by decide) (by decide) (by decide) hsorted]
  decide +kernel

theorem forecastAt_oneLeaf {mean : Float} {features : Row}
    (hlatest : Lags.latest 1 infiniteGrid category = .ok features)
    (hmean : infiniteGrid.rollingMean 1 category = .ok mean) (hproduct : 1.0 * mean = mean) :
    oneLeaf.forecastAt category infinitePrices generatedAt =
      .ok (leafForecast category mean generatedAt) := by
  have hlags : oneLeaf.settings.numLags = 1 := rfl
  rw [forecastAt_of_grid ofObservations_infinitePrices, hlags, hlatest, hmean]
  exact congrArg (fun x => Except.ok (leafForecast category x generatedAt)) hproduct

/-- The feed has forecasts of both categories, one with a finite mean and one without. -/
theorem forecastAt_infinitePrices (generatedAt : Instant) :
    oneLeaf.forecastAt "a__Linux__z1" infinitePrices generatedAt =
        .ok (leafForecast "a__Linux__z1" 1.5 generatedAt) ∧
      oneLeaf.forecastAt "b__Linux__z1" infinitePrices generatedAt =
        .ok (leafForecast "b__Linux__z1" Decimal.infinity generatedAt) := by
  have hfinite : Lags.latest 1 infiniteGrid "a__Linux__z1" = .ok ⟨⟨86400, 0⟩, [1.0]⟩ := by
    decide +kernel
  have hinfinite : Lags.latest 1 infiniteGrid "b__Linux__z1" =
      .ok ⟨⟨86400, 0⟩, [Decimal.notANumber]⟩ := by
    decide +kernel
  exact ⟨forecastAt_oneLeaf hfinite (by decide +kernel) (by decide +kernel),
    forecastAt_oneLeaf hinfinite (by decide +kernel) (by decide +kernel)⟩

/-- An infinite mean is not written as a number, so there is none to be read back. -/
theorem pricesReadBack_leafForecast (generatedAt : Instant) :
    (leafForecast "a__Linux__z1" 1.5 generatedAt).PricesReadBack ∧
      (leafForecast "b__Linux__z1" Decimal.infinity generatedAt).PricesReadBack := by
  have hmean : (Json.Number.real 1.5).ReadsBack := by
    intro _
    decide +kernel
  have hinfinite : (Json.Number.real Decimal.infinity).ReadsBack := by
    intro h
    cases h
  have hdeviation : (Json.Number.real 0.25).ReadsBack := by
    intro _
    decide +kernel
  exact ⟨⟨hmean, hdeviation⟩, ⟨hinfinite, hdeviation⟩⟩

theorem load_oneLeaf :
    DecisionTree.load "mean" (.number (.real 1.0)) = .ok oneLeaf.meanTree ∧
      DecisionTree.load "deviation" (.number (.real 0.25)) = .ok oneLeaf.stdTree ∧
      build oneLeaf.meanTree oneLeaf.stdTree oneLeaf.settings = .ok oneLeaf := by
  decide +kernel

/-- The forecast of a finite mean is read back. -/
theorem forecastAt_readBack_finite :
    DecisionTree.load "deviation" (.number (.real 0.25)) = .ok oneLeaf.stdTree ∧
      build oneLeaf.meanTree oneLeaf.stdTree oneLeaf.settings = .ok oneLeaf ∧
      oneLeaf.settings.horizonDays < Forecast.horizonLimit ∧
      Instant.inCalendar ⟨172800, 0⟩ = true ∧ (0 : Nat) < 2 * Instant.nanosPerSecond ∧
      oneLeaf.forecastAt "a__Linux__z1" infinitePrices ⟨172800, 0⟩ =
        .ok (leafForecast "a__Linux__z1" 1.5 ⟨172800, 0⟩) ∧
      (leafForecast "a__Linux__z1" 1.5 ⟨172800, 0⟩).PricesReadBack ∧
      ∀ out ∈ (leafForecast "a__Linux__z1" 1.5 ⟨172800, 0⟩).texts,
        Forecast.read? out = some (leafForecast "a__Linux__z1" 1.5 ⟨172800, 0⟩) := by
  obtain ⟨-, hload, hbuild⟩ := load_oneLeaf
  have hdays : oneLeaf.settings.horizonDays < Forecast.horizonLimit := by decide
  have hcalendar : Instant.inCalendar ⟨172800, 0⟩ = true := by decide
  have hnanos : (0 : Nat) < 2 * Instant.nanosPerSecond := by decide
  have hforecast := (forecastAt_infinitePrices ⟨172800, 0⟩).1
  have hprices := (pricesReadBack_leafForecast ⟨172800, 0⟩).1
  obtain ⟨-, hread⟩ := forecastAt_readBack hload hbuild hdays hcalendar hnanos hforecast hprices
  have hmean : (1.5 : Float).isFinite = true := by decide
  exact ⟨hload, hbuild, hdays, hcalendar, hnanos, hforecast, hprices,
    fun out hout => (hread out hout).2.mpr ⟨hmean, by decide⟩⟩

/-- The feed is accepted and there are forecasts of both categories.  That of the infinite mean is
not read back, and the other one is not if its time has a leap second inside a minute. -/
theorem not_readBack_infinite :
    Feed.parse infiniteFeed = .ok infinitePrices ∧
      DecisionTree.load "mean" (.number (.real 1.0)) = .ok oneLeaf.meanTree ∧
      DecisionTree.load "deviation" (.number (.real 0.25)) = .ok oneLeaf.stdTree ∧
      build oneLeaf.meanTree oneLeaf.stdTree oneLeaf.settings = .ok oneLeaf ∧
      (∃ f, oneLeaf.forecastAt "b__Linux__z1" infinitePrices ⟨172800, 0⟩ = .ok f ∧
        f.PricesReadBack ∧ ∀ out ∈ f.texts, Forecast.read? out = none) ∧
      ∃ f, oneLeaf.forecastAt "a__Linux__z1" infinitePrices ⟨30, 1500000000⟩ = .ok f ∧
        f.PricesReadBack ∧ ∀ out ∈ f.texts, Forecast.read? out ≠ some f := by
  have hfeed : Feed.parse infiniteFeed = .ok infinitePrices := by
    refine (Feed.parse_eq_ofLines String.ofList_append.symm).trans ?_
    decide +kernel
  obtain ⟨hmean, hdeviation, hbuild⟩ := load_oneLeaf
  have hinfinite := (pricesReadBack_leafForecast ⟨172800, 0⟩).2
  have hfinite := (pricesReadBack_leafForecast ⟨30, 1500000000⟩).1
  refine ⟨hfeed, hmean, hdeviation, hbuild, ⟨_, (forecastAt_infinitePrices _).2, hinfinite, ?_⟩,
    _, (forecastAt_infinitePrices _).1, hfinite, ?_⟩
  · intro out hout
    rw [Forecast.read?_of_mem_texts ⟨by decide, by decide, by decide⟩ hinfinite hout]
    exact if_neg fun h => Bool.false_ne_true h.1
  · intro out hout hread
    rw [Forecast.read?_of_mem_texts ⟨by decide, by decide, by decide⟩ hfinite hout,
      Option.ite_none_right_eq_some, Option.some.injEq, Forecast.asShown_eq_iff] at hread
    exact absurd hread.2 (by decide)

end Pipeline

end SpotForecast
