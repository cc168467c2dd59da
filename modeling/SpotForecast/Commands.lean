import SpotForecast.Failure
import SpotForecast.Feed
import SpotForecast.History.Queue
import SpotForecast.Report
import SpotForecast.Service
import SpotForecast.Settings.Basic
import SpotForecast.Tree.Cache
import SpotForecast.Tree.Source

/-!
# Commands

What the program can do, on any files: list the categories, lay a price history out on a grid,
report on lag features, inspect a tree, and make forecasts.

* A forecast that fails is an outcome of its own category and does not touch the others.
* The command for forecasts as a whole fails only while it is being set up: the categories first,
  then the price history, the tree for the mean, the tree for the standard deviation, and the
  pipeline.
-/

namespace SpotForecast.Commands

variable {m : Type → Type} [Monad m]

/-- The registry of the settings. -/
def loadRegistry (files : Files m) (s : AppSettings) : Command m Registry := do
  let path := s.categories
  match ← ExceptT.lift (files.read path) with
  | .ok text => pure (Registry.ofText text)
  | .error e =>
    throw (.fault (Failure.during ("Failed to load supported categories from " ++ path)
      (.source (e.toSource path))))

/-- The categories of the registry, with the keys of those that are well formed. -/
def listCategories (files : Files m) (s : AppSettings) :
    Command m (List (String × Option Category)) := do
  let registry ← loadRegistry files s
  pure (registry.categories.map (fun name => (name, Category.parse? name)))

/-- The grid of a file with a price feed. -/
def loadGrid (files : Files m) (s : AppSettings) (path : String) : Command m Grid := do
  match ← ExceptT.lift (files.read path) with
  | .error e => throw (.fault (Failure.during ("Failed to read " ++ path) (.file e)))
  | .ok text => do
    let observations ← Command.orFail
      (fun e : Feed.Fault => Failure.during ("Failed to parse " ++ path) (.source e.toSource))
      (Feed.parse text)
    Command.orStop (fun e => Failure.of (.forecast e))
      (Grid.ofObservations s.forecast.stepHours observations)

/-- The grid of a file, as the command prints it. -/
def resample (files : Files m) (s : AppSettings) (path : String) (tail : Option Nat) :
    Command m String := do
  let grid ← loadGrid files s path
  match grid.report tail with
  | .ok text => pure text
  | .error a => throw (.abort a)

/-- The report on a category of a file, and its table. -/
def lags (files : Files m) (s : AppSettings) (path category : String) (tail : Option Nat) :
    Command m (LagReport × String) := do
  let grid ← loadGrid files s path
  let report ← Command.orStop (fun e => Failure.of (.forecast e))
    (LagReport.ofGrid s.forecast.numLags grid category)
  match report.text tail with
  | .ok text => pure (report, text)
  | .error a => throw (.abort a)

/-- What is to be known about a tree. -/
structure TreeSummary where
  identifier : String
  depth : Nat
  leaves : Nat
  requiredFeatures : Nat
  compatible : Bool
deriving DecidableEq, Repr

/-- The definitions in the directory of the settings. -/
def treeSource (files : Files m) (s : AppSettings) : String → m (Except SourceFault Json) :=
  TreeSource.ofDirectory files s.trees.directory s.trees.extension

/-- A tree from a cache, and the cache after that. -/
def getTree (files : Files m) (s : AppSettings) (toFailure : ForecastFault → Failure)
    (cache : Cache) (identifier : String) : Command m (DecisionTree × Cache) := do
  let (answer, cache) ← ExceptT.lift (cache.get (treeSource files s) identifier)
  let loaded ← Command.orFail toFailure answer
  pure (loaded.tree, cache)

/-- What is to be known about the tree with an identifier. -/
def inspectTree (files : Files m) (s : AppSettings) (identifier : String) :
    Command m TreeSummary := do
  let activity := "Failed to load tree '" ++ identifier ++ "'"
  let (tree, _) ← getTree files s (fun e => Failure.during activity (.forecast e)) Cache.empty
    identifier
  let required := tree.root.requiredFeatures
  pure ⟨tree.identifier, tree.root.depth, tree.root.leafCount, required,
    required ≤ s.forecast.numLags⟩

/-- What forecasts are made of. -/
structure Desk where
  service : Service
  history : List Observation
  asOf : Instant
  /-- The limit for one fetch, in milliseconds. -/
  timeout : Nat

/-- A fetch from the price history, which answers at once. -/
def Desk.fetch (d : Desk) : Fetch Id := fun category days =>
  History.fetchWithin d.timeout category ⟨0, History.fetch d.history d.asOf category days⟩

/-- The forecast for a category. -/
def Desk.forecast (d : Desk) (now : Instant) (category : String) :
    Except (Stop ForecastFault) Forecast :=
  (d.service.forecast d.fetch category now).run

/-- The price history of the settings. -/
def loadHistory (files : Files m) (s : AppSettings) : Command m (List Observation) := do
  let path := s.history.source
  let failure (e : SourceFault) : Failure :=
    Failure.during ("Failed to load price history from " ++ path) (.source e)
  match ← ExceptT.lift (files.read path) with
  | .error e => throw (.fault (failure (e.toSource path)))
  | .ok text => Command.orFail (fun e : Feed.Fault => failure e.toSource) (Feed.parse text)

/-- Everything that forecasts need. -/
def openDesk (files : Files m) (s : AppSettings) (now : Instant) : Command m Desk := do
  let failure (e : ForecastFault) : Failure := Failure.of (.forecast e)
  let registry ← loadRegistry files s
  let history ← loadHistory files s
  let (mean, cache) ← getTree files s failure Cache.empty s.trees.mean
  let (std, _) ← getTree files s failure cache s.trees.std
  let pipeline ← Command.orFail failure (Pipeline.build mean std s.forecast)
  pure ⟨⟨pipeline, registry⟩, history, s.history.asOf.getD now, s.history.timeout⟩

/-- What forecasts are asked for. -/
inductive Target where
  | one (category : String)
  | all
deriving DecidableEq, Repr

/-- The categories of a target, in the order in which they are forecast. -/
def Target.categories (registry : Registry) : Target → List String
  | one category => [category]
  | all => registry.categories

/-- A category with its forecast, or with what a user is told instead. -/
abbrev Outcome := String × Except String Forecast

/-- The outcome for a category; there is none if an operation was outside its domain. -/
def Desk.outcome (d : Desk) (details : Bool) (now : Instant) (category : String) :
    Except Abort Outcome :=
  match d.forecast now category with
  | .ok f => .ok (category, .ok f)
  | .error (.fault e) => .ok (category, .error (e.describe details))
  | .error (.abort a) => .error a

/-- The outcomes for the categories of a target. -/
def forecast (files : Files m) (s : AppSettings) (now : Instant) (target : Target) :
    Command m (List Outcome) := do
  let desk ← openDesk files s now
  match (target.categories desk.service.registry).mapM (desk.outcome s.details now) with
  | .ok outcomes => pure outcomes
  | .error a => throw (.abort a)

end SpotForecast.Commands
