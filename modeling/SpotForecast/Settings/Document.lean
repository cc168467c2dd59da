import SpotForecast.Fault
import SpotForecast.Ini
import SpotForecast.Json.Value
import SpotForecast.Ron.Scalar
import SpotForecast.Settings.Layer
import SpotForecast.Toml.Value
import SpotForecast.Yaml.Basic

/-!
# Documents as settings

What the values of the formats for settings files are as settings: `Setting.ofToml`,
`Setting.ofJson`, `Setting.ofIni`, `Setting.ofRon` and `Setting.ofYaml`.

* Times are texts, and what is nothing, a unit or void is nothing.
* Of several members with one key the last one counts.
* In object notation the keys have to be texts.  In YAML they may be integers too; any other key
  aborts.
-/

namespace SpotForecast

/-- The fault of settings that cannot be used. -/
def unusable : SetupFault := .configuration "unusable settings"

namespace Setting

/-- The members with one more, which takes the place of one with its key. -/
def withMember (key : String) (value : Setting) (rest : Members) : Members :=
  if rest.any (fun m => m.1 == key) then rest else (key, value) :: rest

mutual

/-- A TOML value as a setting. -/
def ofToml : Toml → Setting
  | .string s => text s
  | .integer i => integer i
  | .real x => real x
  | .bool b => bool b
  | .time s => text s
  | .array vs => list (ofItems vs)
  | .tables vs => list (ofItems vs).reverse
  | .table _ ms => table (ofMembers ms)

/-- The items of a TOML array as settings. -/
def ofItems : List Toml → List Setting
  | [] => []
  | v :: rest => ofToml v :: ofItems rest

/-- The members of a TOML table as settings. -/
def ofMembers : Toml.Members → Members
  | [] => []
  | (key, v) :: rest => (key, ofToml v) :: ofMembers rest

end

/-- A JSON number as a setting.  An integer that needs more than 64 bits with its sign is taken as a
double. -/
def ofNumber : Json.Number → Setting
  | .integer i => if Decimal.isSigned64 i then integer i else real (Float.ofInt i)
  | .real x => real x

mutual

/-- A JSON value as a setting. -/
def ofJson : Json → Setting
  | .null => nothing
  | .bool b => bool b
  | .number n => ofNumber n
  | .string s => text s
  | .array vs => list (ofJsonItems vs)
  | .object ms => table (ofJsonMembers ms)

/-- The items of a JSON array as settings. -/
def ofJsonItems : List Json → List Setting
  | [] => []
  | v :: rest => ofJson v :: ofJsonItems rest

/-- The members of a JSON object as settings. -/
def ofJsonMembers : List (String × Json) → Members
  | [] => []
  | (key, v) :: rest => (key, ofJson v) :: ofJsonMembers rest

end

/-- The entries under a header of an INI file as settings. -/
def ofEntries : Ini.Entries → Members
  | [] => []
  | (key, value) :: rest => withMember key (text value) (ofEntries rest)

/-- The headers of an INI file as settings, before others. -/
def ofSections (others : Members) : List (String × Ini.Entries) → Members
  | [] => others
  | (header, entries) :: rest =>
    withMember header (table (ofEntries entries)) (ofSections others rest)

/-- An INI file as settings; a header takes the place of an entry of its name. -/
def ofIni (file : Ini) : Members :=
  let sections := ofSections [] file.sections
  (ofEntries file.general).foldr (fun m found => withMember m.1 m.2 found) sections

mutual

/-- A value in object notation as a setting. -/
def ofRon : Ron → Option Setting
  | .unit => some nothing
  | .present v => ofRon v
  | .bool b => some (bool b)
  | .integer i => some (integer i)
  | .real x => some (real x)
  | .string s => some (text s)
  | .list vs => (ofRonItems vs).map list
  | .map ms => (ofRonMembers ms).map table

/-- The items of a list in object notation as settings. -/
def ofRonItems : List Ron → Option (List Setting)
  | [] => some []
  | v :: rest => do pure ((← ofRon v) :: (← ofRonItems rest))

/-- The members of a map in object notation as settings. -/
def ofRonMembers : List (Ron × Ron) → Option Members
  | [] => some []
  | (.string key, v) :: rest => do pure (withMember key (← ofRon v) (← ofRonMembers rest))
  | _ :: _ => none

end

/-- A double in YAML as a setting. -/
def ofYamlReal (written : String) : Except (Stop SetupFault) Setting :=
  match Decimal.read written.toList with
  | .ok x => .ok (real x)
  | .error _ => .error (.fault unusable)

/-- The key of a mapping in YAML. -/
def ofYamlKey : Yaml → Except (Stop SetupFault) String
  | .string s => .ok s
  | .integer i => .ok (String.ofList (Json.integerText i))
  | _ => .error (.abort .keyKind)

mutual

/-- A YAML value as a setting. -/
def ofYaml : Yaml → Except (Stop SetupFault) Setting
  | .null => .ok nothing
  | .void => .ok nothing
  | .bool b => .ok (bool b)
  | .integer i => .ok (integer i)
  | .real written => ofYamlReal written
  | .string s => .ok (text s)
  | .sequence vs => do pure (list (← ofYamlItems vs))
  | .mapping ms => do pure (table (← ofYamlMembers ms))

/-- The items of a YAML sequence as settings. -/
def ofYamlItems : List Yaml → Except (Stop SetupFault) (List Setting)
  | [] => .ok []
  | v :: rest => do pure ((← ofYaml v) :: (← ofYamlItems rest))

/-- The members of a YAML mapping as settings. -/
def ofYamlMembers : List (Yaml × Yaml) → Except (Stop SetupFault) Members
  | [] => .ok []
  | (k, v) :: rest => do
    let key ← ofYamlKey k
    let value ← ofYaml v
    pure (withMember key value (← ofYamlMembers rest))

end

end Setting

end SpotForecast
