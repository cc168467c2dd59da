import SpotForecast.Calendar.Timestamp
import SpotForecast.Pipeline
import SpotForecast.Settings.Layer

/-!
# The settings of the program

`AppSettings.ofMembers?` takes the settings from the layers.  A section that is missing has its
default; in a section that is there, every member without a default of its own is required.
A section may also be the list of its members.  Members that mean nothing are passed over.
-/

namespace SpotForecast

/-- Where the trees are. -/
structure TreeSettings where
  directory : String
  mean : String
  std : String
  extension : String
deriving DecidableEq, Repr

/-- Where the price history is. -/
structure HistorySettings where
  source : String
  /-- The limit for one fetch, in milliseconds. -/
  timeout : Nat
  /-- The end of the window that is fetched; the present if there is none. -/
  asOf : Option Instant
deriving DecidableEq, Repr

/-- How messages to the operator are written. -/
structure LogSettings where
  level : String
  format : String
deriving DecidableEq, Repr

/-- All settings. -/
structure AppSettings where
  forecast : PipelineSettings
  trees : TreeSettings
  categories : String
  history : HistorySettings
  logging : LogSettings
  /-- Whether users are told the details of faults that are not theirs. -/
  details : Bool
deriving DecidableEq, Repr

/-- The extension of tree definitions. -/
def TreeSettings.standardExtension : String := "json"

/-- The limit for one fetch. -/
def HistorySettings.standardTimeout : Nat := 1000

/-- The settings of a program without any. -/
def AppSettings.standard : AppSettings where
  forecast := PipelineSettings.standard
  trees := ⟨"data/trees", "price_mean_tree", "price_std_tree", TreeSettings.standardExtension⟩
  categories := "data/supported_categories.txt"
  history := ⟨"data/price_history.tsv", HistorySettings.standardTimeout, none⟩
  logging := ⟨"info", "pretty"⟩
  details := false

namespace AppSettings

open Setting

/-- A member of a section, which is a table, or a list of its members in their usual order. -/
def member? (position : Nat) (name : String) : Setting → Option Setting
  | table found => found.lookup name
  | list found => found[position]?
  | _ => none

/-- A member that has to be there. -/
def required {α : Type} (convert : Setting → Option α) (position : Nat) (name : String)
    (found : Setting) : Option α :=
  (member? position name found).bind convert

/-- A member that has a default. -/
def optional {α : Type} (convert : Setting → Option α) (position : Nat) (name : String)
    (standard : α) (found : Setting) : Option α :=
  match member? position name found with
  | some v => convert v
  | none => some standard

/-- The section on forecasts. -/
def forecast? (found : Setting) : Option PipelineSettings := do
  pure ⟨← required (nat? Decimal.limit32) 0 "step_hours" found,
    ← required (nat? Decimal.limit64) 1 "num_lags" found,
    ← required (nat? Decimal.limit32) 2 "horizon_days" found⟩

/-- The section on trees. -/
def trees? (found : Setting) : Option TreeSettings := do
  pure ⟨← required text? 0 "directory" found, ← required text? 1 "mean" found,
    ← required text? 2 "std_dev" found,
    ← optional text? 3 "extension" TreeSettings.standardExtension found⟩

/-- The section on categories. -/
def categories? (found : Setting) : Option String :=
  required text? 0 "path" found

/-- The time that a setting denotes; nothing denotes none. -/
def time? : Setting → Option (Option Instant)
  | nothing => some none
  | v => do
    let s ← text? v
    let t ← Timestamp.ofDocument? s.toList
    pure (some t)

/-- The section on the price history. -/
def history? (found : Setting) : Option HistorySettings := do
  pure ⟨← required text? 0 "source" found,
    ← optional (nat? Decimal.limit64) 1 "fetch_timeout_ms" HistorySettings.standardTimeout found,
    ← optional time? 2 "as_of" none found⟩

/-- The section on messages to the operator. -/
def logging? (found : Setting) : Option LogSettings := do
  pure ⟨← required text? 0 "level" found, ← required text? 1 "format" found⟩

/-- The section on faults. -/
def errors? (found : Setting) : Option Bool :=
  optional bool? 0 "include_details" standard.details found

/-- A section, or its default if it is missing; nothing if it is no table and no list. -/
def orStandard {α : Type} (convert : Setting → Option α) (name : String) (standard : α)
    (all : Members) : Option α :=
  match all.lookup name with
  | none => some standard
  | some (table found) => convert (table found)
  | some (list found) => convert (list found)
  | some _ => none

/-- The settings that the layers make up. -/
def ofMembers? (all : Members) : Option AppSettings := do
  pure
    { forecast := ← orStandard forecast? "forecast" standard.forecast all
      trees := ← orStandard trees? "trees" standard.trees all
      categories := ← orStandard categories? "categories" standard.categories all
      history := ← orStandard history? "history" standard.history all
      logging := ← orStandard logging? "logging" standard.logging all
      details := ← orStandard errors? "errors" standard.details all }

end AppSettings

end SpotForecast
