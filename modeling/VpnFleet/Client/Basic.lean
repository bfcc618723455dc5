import VpnFleet.Inventory.Operations
import VpnFleet.Notice
import VpnFleet.Session
import VpnFleet.Settings
import VpnFleet.Traffic

/-!
# The client

One client holds the catalog, the inventory, the session tracker, the traffic
stream and the notice board. It is alive until it is torn down; from then on
answers that still come in change nothing.
-/

namespace VpnFleet

/-- Why a command of the client failed. -/
inductive ClientError where
  | catalog (error : CatalogError)
  | inventory (error : InventoryError)
  | session (error : SessionError)
  | stream (error : StreamError)
  | credentials (message : String)
deriving DecidableEq, Repr

namespace ClientError

/-- The text of the error. -/
def message : ClientError → String
  | catalog error => error.message
  | inventory error => error.message
  | session error => error.message
  | stream error => error.message
  | credentials message => "failed to save credentials: " ++ message

end ClientError

/-- What a bootstrap found. -/
structure BootstrapReport where
  regions : Nat
  instances : Nat
  failedRegions : List String
  session : VpnSession
deriving DecidableEq, Repr

/-- Everything that a dashboard shows. -/
structure Dashboard where
  groups : List RegionGroup
  catalogStatus : CatalogStatus
  instances : List Instance
  refreshing : Bool
  failedRegions : List String
  session : VpnSession
  phase : SessionPhase
  /-- Present only while a tunnel is open. -/
  traffic : Option Traffic
  notices : List Notice
deriving Repr

/-- The state of a client. -/
structure Client where
  options : InventoryOptions
  /-- The interval of the status poll, in milliseconds. -/
  pollMs : Nat
  alive : Bool
  /-- Set once the background loops have to end. -/
  stopping : Published Bool
  catalog : Catalog
  inventory : Inventory
  tracker : Tracker
  stream : Stream
  notices : NoticeBoard
  /-- The salt of the temporary identifiers. -/
  salt : Nat
  /-- How many temporary identifiers were given out. -/
  spawns : Nat
deriving Repr

namespace Client

/-- A client that has asked the backend nothing yet. -/
def new (settings : Settings) (salt : Nat) : Client where
  options := settings.inventoryOptions
  pollMs := settings.statusPollMs
  alive := true
  stopping := Published.new false
  catalog := Catalog.empty
  inventory := Inventory.empty
  tracker := Tracker.empty
  stream := Stream.inactive
  notices := NoticeBoard.empty
  salt := salt
  spawns := 0

/-- Tears the client down: answers are no longer applied and the loops have to end. -/
def retire (client : Client) : Client :=
  { client with alive := false, stopping := client.stopping.replace true }

/-- Posts a notice. -/
def post (client : Client) (severity : Severity) (kind : NoticeKind) (message : String) :
    Client :=
  { client with notices := client.notices.post severity kind message }

/-- Posts an error by its text. -/
def postError (client : Client) (kind : NoticeKind) (error : ClientError) : Client :=
  client.post .error kind error.message

/-- Posts which regions a refresh could not list, if there are any. -/
def postFailures (client : Client) (report : RefreshReport) : Client :=
  if report.isComplete then client
  else client.post .warning .partialInventory
    ("Could not list instances in " ++ InventoryError.listed report.failedRegions)

/-- What a dashboard shows of the client. -/
def view (client : Client) : Dashboard where
  groups := client.catalog.value.groups
  catalogStatus := client.catalog.value.status
  instances := client.inventory.value.instances
  refreshing := client.inventory.value.refreshing
  failedRegions := client.inventory.value.failedRegions
  session := client.tracker.session
  phase := client.tracker.value.phase
  traffic :=
    if client.tracker.session.isConnected then client.stream.snapshot.traffic else none
  notices := client.notices.active

/-- Looks the session up again in the inventory. -/
def reconcile (client : Client) : Client :=
  { client with tracker := client.tracker.reconcile client.inventory.value }

/-- Begins a spawn under a fresh temporary identifier. -/
def beginSpawn (client : Client) (region : String) :
    Except ClientError (Client × Placeholder) :=
  match client.inventory.beginSpawn client.catalog client.options
      (Placeholder.tempIdOf client.salt client.spawns) region with
  | .ok (inventory, placeholder) =>
    .ok ({ client with inventory, spawns := client.spawns + 1 }, placeholder)
  | .error error => .error (.inventory error)

/-- The server with this identifier as its readers see it, placeholders included. -/
def instance? (client : Client) (id : String) : Option Instance :=
  client.inventory.value.instances.find? fun server => server.id = id

end Client
end VpnFleet
