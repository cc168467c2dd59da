import SpotForecast.Forecast
import SpotForecast.Grid.Mean
import SpotForecast.Grid.Sweep
import SpotForecast.Lags.Basic
import SpotForecast.Text.Quoted
import SpotForecast.Tree.Basic

/-!
# The forecast pipeline

A forecast is made from the price history of a category: the prices are laid out on a grid, the
lag features of its last row go into two trees, and the answers are the standard deviation and the
ratio of the expected mean to the mean of the latest rows.

* `Pipeline.build` refuses a step or a number of lags that is zero, and trees that ask for more
  features than there are lags.  After that no feature can be missing.
* `Pipeline.forecastAt` works on given observations, `Pipeline.forecast` fetches them first.
-/

namespace SpotForecast

/-- The settings of a pipeline. -/
structure PipelineSettings where
  stepHours : Nat
  /-- The number of lag features, and of rows whose mean is taken. -/
  numLags : Nat
  horizonDays : Nat
deriving DecidableEq, Repr

namespace PipelineSettings

/-- Four hours, forty-two lags, seven days. -/
def standard : PipelineSettings := ⟨4, 42, 7⟩

/-- The number of days of price history that a forecast needs. -/
def fetchDays (s : PipelineSettings) : Nat :=
  s.horizonDays + 1

/-- Settings as they are shown to a developer. -/
def describe (s : PipelineSettings) : String :=
  "PipelineConfig \x7b step_hours: " ++ toString s.stepHours ++ ", num_lags: " ++
    toString s.numLags ++ ", horizon_days: " ++ toString s.horizonDays ++ " \x7d"

end PipelineSettings

/-- Two trees and the settings under which they are used. -/
structure Pipeline where
  meanTree : DecisionTree
  stdTree : DecisionTree
  settings : PipelineSettings
deriving DecidableEq

/-- A way to fetch the price history of a category for some days. -/
abbrev Fetch (m : Type → Type) :=
  String → Nat → m (Except (Stop SourceFault) (List Observation))

namespace Pipeline

/-- Checks that a tree asks for no more features than there are lags. -/
def checkTree (numLags : Nat) (tree : DecisionTree) : Except ForecastFault Unit :=
  let required := tree.root.requiredFeatures
  if numLags < required then
    .error (.invalidTree ("tree '" ++ tree.identifier ++ "' reads feature index " ++
      toString (required - 1) ++ " but only " ++ toString numLags ++ " lag features are built"))
  else .ok ()

/-- The pipeline of two trees. -/
def build (meanTree stdTree : DecisionTree) (settings : PipelineSettings) :
    Except ForecastFault Pipeline := do
  if settings.stepHours = 0 ∨ settings.numLags = 0 then
    throw (.invalidInput ("step_hours and num_lags must be positive (got " ++
      toString settings.stepHours ++ " and " ++ toString settings.numLags ++ ")"))
  checkTree settings.numLags meanTree
  checkTree settings.numLags stdTree
  pure ⟨meanTree, stdTree, settings⟩

/-- The forecast for a category from given observations, made at a given time. -/
def forecastAt (p : Pipeline) (category : String) (observations : List Observation)
    (generatedAt : Instant) : Except (Stop ForecastFault) Forecast := do
  let count := p.settings.numLags
  if observations.isEmpty then
    throw (.fault (.insufficientData (Lags.minRows count) 0))
  let grid ← Grid.ofObservations p.settings.stepHours observations
  let features ← Lags.latest count grid category
  let priorMean ← grid.rollingMean count category
  let meanRatio ← orAbort .missingFeature (p.meanTree.root.evaluate features.values)
  let stdDeviation ← orAbort .missingFeature (p.stdTree.root.evaluate features.values)
  pure ⟨meanRatio * priorMean, stdDeviation, generatedAt, p.settings.horizonDays, category⟩

/-- The end of a fetch that failed, as the end of a forecast. -/
def ofFetch {α : Type} : Except (Stop SourceFault) α → Except (Stop ForecastFault) α
  | .ok a => .ok a
  | .error (.fault e) => .error (.fault (ForecastFault.ofSource e))
  | .error (.abort a) => .error (.abort a)

/-- The forecast for a category from fetched observations, made at a given time. -/
def forecast {m : Type → Type} [Monad m] (p : Pipeline) (fetch : Fetch m) (category : String)
    (generatedAt : Instant) : m (Except (Stop ForecastFault) Forecast) := do
  match ofFetch (← fetch category p.settings.fetchDays) with
  | .ok observations => pure (p.forecastAt category observations generatedAt)
  | .error e => pure (.error e)

/-- A pipeline as it is shown to a developer. -/
def describe (p : Pipeline) : String :=
  "ForecastPipeline \x7b mean_tree: " ++ Text.quoted p.meanTree.identifier ++ ", std_tree: " ++
    Text.quoted p.stdTree.identifier ++ ", config: " ++ p.settings.describe ++ " \x7d"

end Pipeline

end SpotForecast
