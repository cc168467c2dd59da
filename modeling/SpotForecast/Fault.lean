/-!
# Faults

What can go wrong, as causes; the wording of each cause is its `message`.

* `SourceFault`: reading prices, lists and tree definitions from outside.
* `ForecastFault`: making a forecast.  `ForecastFault.describe` is what a user is told: faults of
  the request are always shown, all others only if details are wanted.
* `SetupFault`: category keys and settings.
* `Abort`: an operation outside its domain.  It ends the computation and has no wording.

A computation that may end in either way gives `Except (Stop ε) α`.
-/

namespace SpotForecast

/-- An operation that was asked for something outside its domain. -/
inductive Abort where
  | calendarEnd
  | calendarStart
  | missingFeature
  | missingColumn
  /-- Features were asked for at a row, or from values, that a grid does not have. -/
  | missingRow
  | unknownPattern
  | tooManyDigits
  | listPosition
  /-- A variable was to be given a value with a character that ends texts. -/
  | zeroInValue
  | insideCharacter
  /-- The program was to run with a number of workers that is none. -/
  | workerCount
  /-- A table in a settings file has a key that is neither a text nor an integer. -/
  | keyKind
deriving DecidableEq, Repr

/-- Why a computation ended without a result. -/
inductive Stop (ε : Type) where
  | fault (e : ε)
  | abort (a : Abort)
deriving DecidableEq, Repr

/-- A result whose only faults are reported ones. -/
def orFault {ε α : Type} : Except ε α → Except (Stop ε) α
  | .ok a => .ok a
  | .error e => .error (.fault e)

/-- A result that is there unless an operation was outside its domain. -/
def orAbort {ε α : Type} (a : Abort) : Option α → Except (Stop ε) α
  | some x => .ok x
  | none => .error (.abort a)

/-- A fault of an outside source. -/
inductive SourceFault where
  | fetch (text : String)
  | timeout (text : String)
  | parse (text : String)
  | io (text : String)
  | notFound (text : String)
  | serialization (text : String)
deriving DecidableEq, Repr

/-- The wording of a fault of a source. -/
def SourceFault.message : SourceFault → String
  | .fetch text => "Fetch error: " ++ text
  | .timeout text => "Operation timeout: " ++ text
  | .parse text => "Parse error: " ++ text
  | .io text => "IO error: " ++ text
  | .notFound text => "Not found: " ++ text
  | .serialization text => "Serialization error: " ++ text

/-- A fault of a forecast. -/
inductive ForecastFault where
  | insufficientData (required actual : Nat)
  | unknownCategory (category : String)
  | unsupportedOperator (operator : String)
  | invalidTree (text : String)
  | fetchFailed (text : String)
  | unsupportedCategory (category : String)
  | invalidInput (text : String)
deriving DecidableEq, Repr

namespace ForecastFault

/-- The wording of a fault of a forecast. -/
def message : ForecastFault → String
  | .insufficientData required actual =>
    "Insufficient data: need at least " ++ toString required ++ " resampled rows, got " ++
      toString actual
  | .unknownCategory category => "Unknown category: " ++ category
  | .unsupportedOperator operator => "Unsupported comparison operator: " ++ operator
  | .invalidTree text => "Invalid tree definition: " ++ text
  | .fetchFailed text => "Upstream fetch error: " ++ text
  | .unsupportedCategory category => "Unsupported category: " ++ category
  | .invalidInput text => "Invalid input: " ++ text

/-- The fault lies in the request. -/
def isClient : ForecastFault → Bool
  | .unsupportedCategory _ => true
  | .invalidInput _ => true
  | _ => false

/-- The fault lies in the source of the price history. -/
def isFetchFailed : ForecastFault → Bool
  | .fetchFailed _ => true
  | _ => false

/-- The fault lies in a tree. -/
def isFatal : ForecastFault → Bool
  | .unsupportedOperator _ => true
  | .invalidTree _ => true
  | _ => false

/-- What a user is told; `details` asks for the wording of faults that are not the user's. -/
def describe (details : Bool) (e : ForecastFault) : String :=
  if e.isClient || details then e.message
  else if e.isFetchFailed then "Price history is temporarily unavailable"
  else if e.isFatal then "Forecast model is unavailable"
  else "Not enough price history to forecast this category"

/-- A fault of a source, met while a forecast was made. -/
def ofSource (e : SourceFault) : ForecastFault :=
  .fetchFailed e.message

end ForecastFault

/-- A fault of a category key or of the settings. -/
inductive SetupFault where
  | invalidCategory (text : String)
  | configuration (text : String)
deriving DecidableEq, Repr

/-- The wording of a fault of a category key or of the settings. -/
def SetupFault.message : SetupFault → String
  | .invalidCategory text => "Invalid category key: " ++ text
  | .configuration text => "Configuration error: " ++ text

end SpotForecast
