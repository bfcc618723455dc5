import VpnFleet.Settings
import VpnFleet.Settings.File

/-!
# Loading settings

Settings come from the environment, from one settings file, and from the
defaults, in this order of precedence. Only the value that wins is looked at:
a text setting takes a text and a number setting a count, and a name that is
no setting is passed over.

The file is the first that exists on the search path: the one that the
environment names, those of the user, and the one in the current directory.
-/

namespace VpnFleet
namespace Settings

/-- The variable that names a settings file. -/
def pathVariable : String :=
  "BYOCVPN_CONFIG_PATH"

/-- The name of a settings file where others may lie beside it. -/
def fileName : String :=
  "byocvpn.toml"

/-- The settings files in a directory of the user's. -/
def filesIn (directory : String) : List String :=
  [directory ++ "/byocvpn/" ++ fileName, directory ++ "/." ++ fileName]

/-- Where a settings file is looked for. -/
def searchPath (env : List (String × String)) (configHome home : String) : List String :=
  (env.lookup pathVariable).toList ++ filesIn configHome ++ filesIn (home ++ "/.config")
    ++ [home ++ "/." ++ fileName, fileName]

/-- The value that a source gives for a setting; a longer name makes a table of it. -/
def given? (source : List SettingEntry) (key : String) : Option SettingValue :=
  (source.reverse.find? fun entry => entry.path.head? = some key).map fun entry =>
    if entry.path = [key] then entry.value else .other

/-- The value for a setting: the environment before the file. -/
def merged? (env file : List SettingEntry) (name : SettingName) : Option SettingValue :=
  (given? env name.key).or (given? file name.key)

/-- A text setting. -/
def textOr (fallback : String) : Option SettingValue → Except SettingsError String
  | none => .ok fallback
  | some (.text value) => .ok value
  | some _ => .error .unreadable

/-- A number setting. -/
def countOr (fallback : Nat) : Option SettingValue → Except SettingsError Nat
  | none => .ok fallback
  | some (.count value) => .ok value
  | some _ => .error .unreadable

/-- The settings that two sources give together. -/
def ofSources (env file : List SettingEntry) : Except SettingsError Settings := do
  let value? := merged? env file
  return {
    backendBin := ← textOr default.backendBin (value? .backendBin)
    statusPollMs := ← countOr default.statusPollMs (value? .statusPoll)
    metricsPollMs := ← countOr default.metricsPollMs (value? .metricsPoll)
    maxRegionQueries := ← countOr default.maxRegionQueries (value? .maxRegionQueries)
    displayName := ← textOr default.displayName (value? .displayName)
    metricsBuffer := ← countOr default.metricsBuffer (value? .metricsBuffer) }

/-- The settings of an environment and a settings file. -/
def load (env : List (String × String)) (file : Option String) : Except SettingsError Settings :=
  let given := env.filterMap fun (name, text) => SettingEntry.ofEnv? name text
  match SettingsFile.read? (file.getD "") with
  | some entries => ofSources given entries
  | none => .error .unreadable

end Settings
end VpnFleet
