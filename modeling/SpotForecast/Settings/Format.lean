import SpotForecast.Json.Lenient
import SpotForecast.Json.Reader
import SpotForecast.Ron.Reader
import SpotForecast.Settings.Document
import SpotForecast.Toml.Reader
import SpotForecast.Yaml.Reader

/-!
# Formats of settings files

The extension of a settings file says how it is written.  `SettingsFormat.members` reads the text of
a file in a format: the members of the table that it holds.

An INI file is always a table, and a YAML text without a document is an empty one.  What a text of
another format denotes has to be a table.
-/

namespace SpotForecast

/-- How a settings file is written. -/
inductive SettingsFormat where
  | toml
  | json
  | yaml
  | ini
  | ron
  | json5
deriving DecidableEq, Repr

namespace SettingsFormat

/-- The extensions of settings files and what they stand for, in the order in which files are looked
for. -/
def extensions : List (String × SettingsFormat) :=
  [("toml", toml), ("json", json), ("yaml", yaml), ("yml", yaml), ("ini", ini), ("ron", ron),
    ("json5", json5)]

/-- The members that a value has to have, if there is a value. -/
def membersOf : Option Setting → Except (Stop SetupFault) Setting.Members
  | some (.table members) => .ok members
  | _ => .error (.fault unusable)

/-- The members that a YAML text has. -/
def yamlMembers (text : String) : Except (Stop SetupFault) Setting.Members :=
  match Yaml.document? text with
  | none => .error (.fault unusable)
  | some none => .ok []
  | some (some v) => do membersOf (some (← Setting.ofYaml v))

/-- The members that the text of a file has. -/
def members (text : String) : SettingsFormat → Except (Stop SetupFault) Setting.Members
  | toml => membersOf ((Toml.parse text).map (fun ms => .table (Setting.ofMembers ms)))
  | json => membersOf ((Json.document text).map Setting.ofJson)
  | yaml => yamlMembers text
  | ini => membersOf ((Ini.parse text).map (fun file => .table (Setting.ofIni file)))
  | ron => membersOf ((Ron.parse text).bind Setting.ofRon)
  | json5 => membersOf ((Json.lenient text).map Setting.ofJson)

end SettingsFormat

end SpotForecast
