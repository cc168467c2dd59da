import SpotForecast.Settings.Filter
import SpotForecast.Text.Case

/-!
# Logging

What the settings say about messages to the operator.

* `LogFormat.parse` reads the name of a format in any case.
* `Logging.check` checks the settings in the order in which they are used: the format first, then
  the level, which is a filter and does not matter if the environment has a filter of its own.
-/

namespace SpotForecast

/-- How messages to the operator are laid out. -/
inductive LogFormat where
  | pretty
  | json
  | compact
deriving DecidableEq, Repr

/-- The format that is used if none is asked for. -/
def LogFormat.standard : LogFormat := .pretty

/-- The format with a name. -/
def LogFormat.parse (text : String) : Except SetupFault LogFormat :=
  let name := lowered text
  if name = "pretty" then .ok .pretty
  else if name = "json" then .ok .json
  else if name = "compact" then .ok .compact
  else .error (.configuration
    ("Unknown log format: " ++ text ++ " (expected pretty, json or compact)"))

namespace Logging

/-- Whether messages can be filtered: by the environment's own filter, or else by a level. -/
def isFiltered (ownFilter : Option String) (level : String) : Except Abort Bool := do
  match ownFilter with
  | none => Filter.check level
  | some own => if ← Filter.check own then pure true else Filter.check level

/-- Checks the settings of a program.  The level is not used if the environment has a filter of its
own. -/
def check (ownFilter : Option String) (level format : String) :
    Except (Stop SetupFault) Unit := do
  let _ ← orFault (LogFormat.parse format)
  if ← (isFiltered ownFilter level).mapError Stop.abort then pure ()
  else throw (.fault (.configuration ("Invalid log level '" ++ level ++ "'")))

end Logging

end SpotForecast
