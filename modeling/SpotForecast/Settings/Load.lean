import SpotForecast.Failure
import SpotForecast.Files.Basic
import SpotForecast.Settings.Basic
import SpotForecast.Settings.Environment
import SpotForecast.Settings.Format

/-!
# Loading the settings

* A file that is named has to be read; the name may lack the extension that says how the file is
  written.
* Otherwise the standard file is read if it exists.  If it does not, all settings have their
  defaults, and the environment is not asked.
* The file and the environment make up one layer, in which the environment replaces what the file
  says.  That layer replaces the defaults: a section of the file that is no table, but has members
  in the environment, is gone before the defaults are looked at.

Whatever is wrong with settings is one kind of fault.
-/

namespace SpotForecast

/-- The settings file that is read if none is named. -/
def standardSettings : String := "config/default.toml"

/-- The layer of defaults. -/
def defaultLayer : Setting.Members :=
  let s := PipelineSettings.standard
  [("forecast", .table [("step_hours", .integer s.stepHours), ("num_lags", .integer s.numLags),
    ("horizon_days", .integer s.horizonDays)])]

/-- Members with others put at the paths that their keys denote. -/
def putAll (incoming found : Setting.Members) : Except Abort Setting.Members :=
  incoming.foldlM (fun found (m : String × Setting) =>
    Setting.put (Setting.pathOf m.1.toList) m.2 found) found

/-- The layer that the members of a file and the environment make up. -/
def Environment.layer (env : Environment) (members : Setting.Members) :
    Except Abort Setting.Members := do
  env.apply (← putAll members [])

/-- The settings that the text of a file and the environment make up. -/
def AppSettings.ofText (env : Environment) (format : SettingsFormat) (text : String) :
    Except (Stop SetupFault) AppSettings := do
  let members ← format.members text
  let layer ← (env.layer members).mapError Stop.abort
  let found ← (putAll layer defaultLayer).mapError Stop.abort
  (ofMembers? found).elim (throw (.fault unusable)) pure

/-- The extension of a name, if it has one; a name that starts with its only point has none. -/
def extension? (name : List Char) : Option String :=
  match (Text.pieces (· == '.') name).reverse with
  | last :: before :: earlier =>
    if before.isEmpty ∧ earlier.isEmpty then none else some (String.ofList last)
  | _ => none

/-- The last part of a path. -/
def lastPart (path : List Char) : List Char :=
  ((Text.pieces (· == '/') path).getLast?).getD []

/-- A path without what follows its last name: slashes and single dots. -/
def upToName (path : List Char) : List Char :=
  let parts := (Text.pieces (· == '/') path).reverse
  Text.joinPieces ['/'] (parts.dropWhile (fun p => p.isEmpty || p == ['.'])).reverse

variable {m : Type → Type} [Monad m]

/-- The first file whose path is a base with one of some extensions. -/
def firstOf (files : Files m) (base : String) :
    List (String × SettingsFormat) → m (Option (SettingsFormat × String))
  | [] => pure none
  | (extension, format) :: rest => do
    let path := base ++ "." ++ extension
    if ← files.isFile path then pure (some (format, path)) else firstOf files base rest

/-- The settings file with a name, and its format: the file of that name if it has the extension of
a format, or a file with such an extension behind the name. -/
def settingsFile? (files : Files m) (name : String) : m (Option (SettingsFormat × String)) := do
  if ← files.isFile name then
    let format := (extension? (lastPart name.toList)).bind (SettingsFormat.extensions.lookup ·)
    pure (format.map (fun format => (format, name)))
  else
    let base := upToName name.toList
    if lastPart base = [] ∨ lastPart base = ['.', '.'] then pure none
    else firstOf files (String.ofList base) SettingsFormat.extensions

/-- The settings in a file. -/
def settingsIn (files : Files m) (env : Environment) (name : String) :
    m (Except (Stop SetupFault) AppSettings) := do
  match ← settingsFile? files name with
  | none => pure (.error (.fault unusable))
  | some (format, path) =>
    match ← files.read path with
    | .error _ => pure (.error (.fault unusable))
    | .ok text => pure (AppSettings.ofText env format text)

/-- The settings in a file, or the failure of an activity. -/
def settingsFrom (files : Files m) (env : Environment) (name activity : String) :
    Command m AppSettings := do
  Command.orStop (fun e => Failure.during activity (.setup e))
    (← ExceptT.lift (settingsIn files env name))

/-- The settings of the program, from the file with a name if one is given. -/
def loadSettings (files : Files m) (env : Environment) (name : Option String) :
    Command m AppSettings := do
  match name with
  | some name => settingsFrom files env name ("Failed to load config from " ++ name)
  | none =>
    if ← ExceptT.lift (files.isPresent standardSettings) then
      settingsFrom files env standardSettings ("Failed to load " ++ standardSettings)
    else pure AppSettings.standard

end SpotForecast
