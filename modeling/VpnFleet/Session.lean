import VpnFleet.Inventory.Basic

/-!
# The tunnel session

There is at most one tunnel. The tracker keeps what the client believes about
it: the session, the target of an open call under way, the last error, and an
epoch. Opening and closing the tunnel raise the epoch.

**Queries.** A status query remembers the epoch it began in. Its answer is
applied only in that epoch; a later answer is stale and changes nothing.

**Resolution.** A reported tunnel is resolved when the inventory holds a
confirmed server with its identifier; otherwise the session carries only what
the backend reported.
-/

namespace VpnFleet

/-- The tunnel as the client sees it. -/
inductive VpnSession where
  | disconnected
  | connected (server : Instance) (resolved : Bool)
deriving DecidableEq, Repr

namespace VpnSession

/-- A tunnel is open. -/
def isConnected : VpnSession → Bool
  | disconnected => false
  | connected _ _ => true

/-- A tunnel is open to a server of the inventory. -/
def isResolved : VpnSession → Bool
  | disconnected => false
  | connected _ resolved => resolved

/-- The end of the tunnel. -/
def server? : VpnSession → Option Instance
  | disconnected => none
  | connected server _ => some server

/-- The identifier of a tunnel end that the backend did not name. -/
def unknownId : String :=
  "unknown"

/-- A tunnel of which only the report is known. -/
def reported (id : String) (record : StatusRecord) : VpnSession :=
  connected {
    id := id
    name := id
    lifecycle := .running
    publicV4 := record.publicV4.getD ""
    publicV6 := record.publicV6
    region := "" } false

/-- The session that a status report stands for. -/
def resolve (inventory : InventorySnapshot) (record : StatusRecord) : VpnSession :=
  if record.connected then
    match record.instanceId.bind Text.nonBlank with
    | none => reported unknownId record
    | some id =>
      match inventory.find? id with
      | some server => connected server true
      | none => reported id record
  else disconnected

/-- The session looked up again in the inventory: a tunnel takes the entry with its identifier,
and keeps its server as it was, unresolved, when there is none. -/
def reconciled (inventory : InventorySnapshot) : VpnSession → VpnSession
  | disconnected => disconnected
  | connected server _ =>
    match inventory.find? server.id with
    | some found => connected found true
    | none => connected server false

end VpnSession

/-- The state shown for a session. -/
inductive SessionPhase where
  | disconnected
  | connecting
  | connected
  | error
deriving DecidableEq, Repr

/-- Why a session operation was refused or failed. -/
inductive SessionError where
  | connect (id message : String)
  | disconnect (message : String)
  | status (message : String)
  | notConnectable (id reason : String)
  | connectInProgress (id : String)
deriving DecidableEq, Repr

namespace SessionError

/-- The text of the error. -/
def message : SessionError → String
  | connect id message => "failed to connect to " ++ id ++ ": " ++ message
  | disconnect message => "failed to disconnect: " ++ message
  | status message => "failed to query VPN status: " ++ message
  | notConnectable id reason => "cannot connect to " ++ id ++ ": " ++ reason
  | connectInProgress id => "already connecting to " ++ id

end SessionError

/-- What the tracker publishes. -/
structure SessionSnapshot where
  session : VpnSession
  /-- The target of an open call under way. -/
  connecting : Option String
  lastError : Option SessionError
  /-- Raised when the tunnel is opened or closed. -/
  epoch : Nat
deriving DecidableEq, Repr

namespace SessionSnapshot

/-- The state shown: an open call under way, then an error, then the tunnel. -/
def phase (snapshot : SessionSnapshot) : SessionPhase :=
  if snapshot.connecting.isSome then .connecting
  else if snapshot.lastError.isSome then .error
  else if snapshot.session.isConnected then .connected
  else .disconnected

end SessionSnapshot

/-- The tracker and its publications. -/
abbrev Tracker := Published SessionSnapshot

namespace Tracker

/-- A tracker without a tunnel. -/
def empty : Tracker :=
  Published.new { session := .disconnected, connecting := none, lastError := none, epoch := 0 }

/-- The current session. -/
def session (tracker : Tracker) : VpnSession :=
  tracker.value.session

/-- A query begins: it remembers the epoch. -/
def beginQuery (tracker : Tracker) : Nat :=
  tracker.value.epoch

/-- A report of the current epoch is applied; it is published if it changes the session or
clears an error. -/
def applyStatus (tracker : Tracker) (session : VpnSession) : Tracker :=
  tracker.update
    { tracker.value with session, lastError := none }
    (tracker.value.session ≠ session || tracker.value.lastError.isSome)

/-- A query ends with the answer of the backend. -/
def settleQuery
    (tracker : Tracker)
    (alive : Bool)
    (inventory : InventorySnapshot)
    (began : Nat)
    (answer : Except String StatusRecord) :
    Tracker × Except SessionError VpnSession :=
  match answer with
  | .ok record =>
    if !alive || tracker.value.epoch ≠ began then (tracker, .ok tracker.session)
    else
      let session := VpnSession.resolve inventory record
      (tracker.applyStatus session, .ok session)
  | .error message =>
    let error := SessionError.status message
    if !alive || tracker.value.epoch ≠ began then (tracker, .error error)
    else (tracker.modify fun snapshot => { snapshot with lastError := some error }, .error error)

/-- Looks the session up again in the inventory, without asking the backend. -/
def reconcile (tracker : Tracker) (inventory : InventorySnapshot) : Tracker :=
  let session := tracker.session.reconciled inventory
  tracker.update { tracker.value with session } (tracker.session ≠ session)

/-- The opening of a tunnel begins, unless the server cannot be its end or another opening is
under way. -/
def beginConnect (tracker : Tracker) (target : Instance) : Tracker × Except SessionError Unit :=
  match target.ensureConnectable with
  | .error reason =>
    (tracker, .error (.notConnectable target.id
      (InventoryError.ofNotConnectable target reason).message))
  | .ok () =>
    match tracker.value.connecting with
    | some id => (tracker, .error (.connectInProgress id))
    | none =>
      (tracker.modify fun snapshot =>
        { snapshot with connecting := some target.id, epoch := snapshot.epoch + 1 },
        .ok ())

/-- The opening of a tunnel ends with the answer of the backend. -/
def settleConnect
    (tracker : Tracker)
    (alive : Bool)
    (id : String)
    (answer : Except String Unit) :
    Tracker × Except SessionError Unit :=
  match answer with
  | .ok () =>
    (if alive then
        tracker.modify fun snapshot =>
          { snapshot with connecting := none, lastError := none, epoch := snapshot.epoch + 1 }
      else tracker,
      .ok ())
  | .error message =>
    let error := SessionError.connect id message
    (if alive then
        tracker.modify fun snapshot =>
          { snapshot with connecting := none, lastError := some error }
      else tracker,
      .error error)

/-- The error of a failed outcome. -/
def failure? : Except SessionError Unit → Option SessionError
  | .ok () => none
  | .error error => some error

/-- The closing of a tunnel ends: the session is cleared whatever the backend answered. -/
def settleDisconnect
    (tracker : Tracker)
    (alive : Bool)
    (answer : Except String Unit) :
    Tracker × Except SessionError Unit :=
  let outcome := answer.mapError SessionError.disconnect
  (if alive then
      tracker.modify fun snapshot =>
        { snapshot with
          session := .disconnected
          connecting := none
          lastError := failure? outcome
          epoch := snapshot.epoch + 1 }
    else tracker,
    outcome)

end Tracker
end VpnFleet
