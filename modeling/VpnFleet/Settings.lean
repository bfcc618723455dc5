import VpnFleet.Inventory.Basic
import VpnFleet.Text.Blank

/-!
# Settings

The six settings of the client with their defaults, and the check that they
make sense. The check reports the first fault in a fixed order: the two texts,
then the two intervals, then the buffer. Each report names the environment
variable and the file key that mend it.
-/

namespace VpnFleet

/-- The settings of the client; intervals are in milliseconds. -/
structure Settings where
  /-- The helper program. -/
  backendBin : String
  statusPollMs : Nat
  metricsPollMs : Nat
  /-- How many regions may be listed at once; zero for no bound. -/
  maxRegionQueries : Nat
  /-- The name of servers that the backend does not name. -/
  displayName : String
  /-- How many traffic samples may wait in a feed. -/
  metricsBuffer : Nat
deriving DecidableEq, Repr

/-- A setting, for the texts that speak of it. -/
structure SettingName where
  description : String
  envVar : String
  key : String
deriving DecidableEq, Repr

/-- Why settings are not usable. -/
inductive SettingsError where
  | missingField (text : String)
  | invalid (text : String)
  /-- A source of settings could not be read. -/
  | unreadable
deriving DecidableEq, Repr

namespace SettingsError

/-- The text of the error. -/
def message : SettingsError → String
  | missingField text => "missing configuration field: " ++ text
  | invalid text => "invalid configuration value: " ++ text
  | unreadable => "configuration parsing failed: a setting cannot be read"

end SettingsError

namespace SettingName

def backendBin : SettingName :=
  ⟨"backend binary", "BYOCVPN_BACKEND_BIN", "backend_bin"⟩

def displayName : SettingName :=
  ⟨"instance display name", "BYOCVPN_INSTANCE_DISPLAY_NAME", "instance_display_name"⟩

def statusPoll : SettingName :=
  ⟨"status poll interval", "BYOCVPN_STATUS_POLL_INTERVAL_MS", "status_poll_interval_ms"⟩

def metricsPoll : SettingName :=
  ⟨"metrics poll interval", "BYOCVPN_METRICS_POLL_INTERVAL_MS", "metrics_poll_interval_ms"⟩

def maxRegionQueries : SettingName :=
  ⟨"concurrent region queries", "BYOCVPN_MAX_CONCURRENT_REGION_QUERIES",
    "max_concurrent_region_queries"⟩

def metricsBuffer : SettingName :=
  ⟨"metrics buffer", "BYOCVPN_METRICS_BUFFER", "metrics_buffer"⟩

/-- How to mend the setting. -/
def hint (name : SettingName) : String :=
  "set " ++ name.envVar ++ " or add " ++ name.key ++ " to byocvpn.toml"

/-- A text must not be blank. -/
def requireText (name : SettingName) (value : String) : Except SettingsError Unit :=
  if Text.isBlank value then
    .error (.missingField ("missing " ++ name.description ++ ": " ++ name.hint))
  else .ok ()

/-- A number must not be zero. -/
def requirePositive (name : SettingName) (value : Nat) : Except SettingsError Unit :=
  if value = 0 then
    .error (.invalid (name.description ++ " must be greater than zero: " ++ name.hint))
  else .ok ()

end SettingName

namespace Settings

/-- The settings without any source. -/
def default : Settings where
  backendBin := "byocvpn"
  statusPollMs := 2000
  metricsPollMs := 1000
  maxRegionQueries := 0
  displayName := "VPN Server"
  metricsBuffer := 32

/-- The first fault of the settings, if there is one. -/
def validate (settings : Settings) : Except SettingsError Unit := do
  SettingName.backendBin.requireText settings.backendBin
  SettingName.displayName.requireText settings.displayName
  SettingName.statusPoll.requirePositive settings.statusPollMs
  SettingName.metricsPoll.requirePositive settings.metricsPollMs
  SettingName.metricsBuffer.requirePositive settings.metricsBuffer

/-- The settings that the inventory runs by. -/
def inventoryOptions (settings : Settings) : InventoryOptions where
  maxListings := settings.maxRegionQueries
  defaultName := settings.displayName

end Settings
end VpnFleet
