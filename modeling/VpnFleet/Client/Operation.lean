import VpnFleet.Backend.Call
import VpnFleet.Client.Basic

/-!
# Operations under way

An operation of the client runs until it needs an answer from the backend.
What is left of it then is a value: the call, and a resumption that says what
the answer is for. Settling an answer changes the client and leads to the next
such value or to the result.

A refresh has several calls under way at once and waits as a whole sweep. A
teardown waits, without a call, until the background loops have ended.
-/

namespace VpnFleet

/-- What an operation results in. -/
inductive Yield where
  | regions
  | report
  | bootstrap
  | server
  | session
  | unit
deriving DecidableEq, Repr

namespace Yield

/-- The type of the result. -/
def Value : Yield → Type
  | regions => Except ClientError (List Region)
  | report => RefreshReport
  | bootstrap => Except ClientError BootstrapReport
  | server => Except ClientError Instance
  | session => Except ClientError VpnSession
  | unit => Except ClientError Unit

end Yield

/-- Whether the outcome of an operation is posted as a notice. -/
inductive Reporting where
  | silent
  | noticed
deriving DecidableEq, Repr

/-- What a loading of the catalog is for. -/
inductive LoadGoal : Yield → Type where
  | silent : LoadGoal .regions
  | noticed : LoadGoal .regions
  | bootstrap : LoadGoal .bootstrap

/-- What a refresh is for; a bootstrap carries the number of its regions along. -/
inductive RefreshGoal : Yield → Type where
  | silent : RefreshGoal .report
  | noticed : RefreshGoal .report
  | bootstrap (regions : Nat) : RefreshGoal .bootstrap

/-- What a status query is for; a bootstrap carries what it found so far. -/
inductive QueryGoal : Yield → Type where
  | silent : QueryGoal .session
  | opened (id : String) : QueryGoal .session
  | bootstrap (regions : Nat) (report : RefreshReport) : QueryGoal .bootstrap

/-- What the closing of a feed belongs to. -/
inductive Closing where
  | silent
  /-- The rest of a disconnection, with the outcome of its call. -/
  | disconnection (outcome : Except SessionError Unit)

/-- What is left of an operation that waits for the answer to a call. -/
inductive Resumption : Call → Yield → Type where
  | load {yield : Yield} (goal : LoadGoal yield) : Resumption .listRegions yield
  | spawn (placeholder : Placeholder) (reporting : Reporting) :
      Resumption (.spawn placeholder.region) .server
  | terminate (termination : Termination) (reporting : Reporting) :
      Resumption (.terminate termination.id termination.region) .unit
  | connect (target : Instance) (reporting : Reporting) :
      Resumption (.connect target.id target.region) .session
  | query {yield : Yield} (began : Nat) (goal : QueryGoal yield) : Resumption .status yield
  | disconnect (reporting : Reporting) : Resumption .disconnect .unit
  | activate (generation : Nat) : Resumption .subscribe .unit
  | close (feed : String) (closing : Closing) : Resumption (.unsubscribe feed) .unit
  | save (credentials : Credentials) : Resumption (.saveCredentials credentials) .bootstrap

/-- An operation under way. -/
inductive Operation : Yield → Type where
  /-- Waits for the answer to one call. -/
  | awaiting {yield : Yield} (call : Call) (resumption : Resumption call yield) : Operation yield
  /-- Waits for the listings of a sweep. -/
  | sweeping {yield : Yield} (sweep : Sweep) (goal : RefreshGoal yield) : Operation yield
  /-- Waits for the end of the background loops. -/
  | draining : Operation .unit

/-- Where an operation stands after a step. -/
inductive Next (yield : Yield) where
  | finished (value : yield.Value)
  | waiting (operation : Operation yield)

/-- What a step asks for beyond the client: forwarders of a feed come and go. -/
inductive Effect where
  | startForwarder (feed : ActiveFeed)
  | stopForwarder (feed : ActiveFeed)
deriving DecidableEq, Repr

/-- The outcome of a step. -/
structure Turn (yield : Yield) where
  client : Client
  next : Next yield
  effects : List Effect

namespace Turn

variable {yield : Yield}

/-- The operation is over. -/
def finished (client : Client) (value : yield.Value) : Turn yield :=
  { client, next := .finished value, effects := [] }

/-- The operation goes on with a call. -/
def awaiting (client : Client) (call : Call) (resumption : Resumption call yield) : Turn yield :=
  { client, next := .waiting (.awaiting call resumption), effects := [] }

end Turn

namespace Client

/-- Loads the catalog. -/
def load {yield : Yield} (client : Client) (goal : LoadGoal yield) : Turn yield :=
  Turn.awaiting { client with catalog := client.catalog.beginLoad } .listRegions (.load goal)

/-- Lists the regions of the catalog. -/
def refresh {yield : Yield} (client : Client) (goal : RefreshGoal yield) : Turn yield where
  client := { client with inventory := client.inventory.beginRefresh }
  next := .waiting (.sweeping
    (Sweep.ofRegions client.options.maxListings client.catalog.codes) goal)
  effects := []

/-- Queries the status of the tunnel. -/
def query {yield : Yield} (client : Client) (goal : QueryGoal yield) : Turn yield :=
  Turn.awaiting client .status (.query client.tracker.beginQuery goal)

/-- A disconnection is over: its outcome is posted. -/
def finishDisconnect (client : Client) (outcome : Except SessionError Unit) : Turn .unit :=
  match outcome with
  | .ok () => Turn.finished (client.post .info .disconnect "Disconnected") (.ok ())
  | .error error =>
    Turn.finished (client.postError .disconnect (.session error)) (.error (.session error))

/-- A feed is closed, and what its closing belongs to is over. -/
def finishClose (client : Client) : Closing → Turn .unit
  | .silent => Turn.finished client (.ok ())
  | .disconnection outcome => client.finishDisconnect outcome

/-- Deactivates the traffic stream; an installed feed is closed at the backend. -/
def deactivate (client : Client) (closing : Closing) : Turn .unit :=
  match client.stream.deactivate with
  | (stream, some active) =>
    { client := { client with stream }
      next := .waiting (.awaiting (.unsubscribe active.feed) (.close active.feed closing))
      effects := [.stopForwarder active] }
  | (stream, none) => { client with stream }.finishClose closing

/-- Activates the traffic stream. -/
def activate (client : Client) : Turn .unit :=
  match client.stream.beginActivate with
  | (stream, some generation) =>
    Turn.awaiting { client with stream } .subscribe (.activate generation)
  | (stream, none) => Turn.finished { client with stream } (.ok ())

/-- Asks for the creation behind a placeholder. -/
def confirm (client : Client) (placeholder : Placeholder) (reporting : Reporting) :
    Turn .server :=
  Turn.awaiting client (.spawn placeholder.region) (.spawn placeholder reporting)

/-- Spawns a server. -/
def spawn (client : Client) (region : String) (reporting : Reporting) : Turn .server :=
  match client.beginSpawn region, reporting with
  | .ok (client, placeholder), _ => client.confirm placeholder reporting
  | .error error, .silent => Turn.finished client (.error error)
  | .error error, .noticed => Turn.finished (client.postError .spawn error) (.error error)

/-- Terminates a server. -/
def terminate (client : Client) (id : String) (reporting : Reporting) : Turn .unit :=
  match client.inventory.beginTerminate id, reporting with
  | (inventory, .ok termination), _ =>
    Turn.awaiting { client with inventory } (.terminate termination.id termination.region)
      (.terminate termination reporting)
  | (inventory, .error error), .silent =>
    Turn.finished { client with inventory } (.error (.inventory error))
  | (inventory, .error error), .noticed =>
    Turn.finished ({ client with inventory }.postError .terminate (.inventory error))
      (.error (.inventory error))

/-- Opens the tunnel to a server. -/
def openTunnel (client : Client) (target : Instance) (reporting : Reporting) : Turn .session :=
  match client.tracker.beginConnect target, reporting with
  | (tracker, .ok ()), _ =>
    Turn.awaiting { client with tracker } (.connect target.id target.region)
      (.connect target reporting)
  | (tracker, .error error), .silent =>
    Turn.finished { client with tracker } (.error (.session error))
  | (tracker, .error error), .noticed =>
    Turn.finished ({ client with tracker }.postError .connect (.session error))
      (.error (.session error))

/-- Opens the tunnel to the entry with this identifier. -/
def connect (client : Client) (id : String) : Turn .session :=
  match client.instance? id with
  | some target => client.openTunnel target .noticed
  | none =>
    let error := ClientError.inventory (.unknownInstance id)
    Turn.finished (client.postError .connect error) (.error error)

/-- Tears the client down and waits for its loops. -/
def shutdown (client : Client) : Turn .unit where
  client := client.retire
  next := .waiting .draining
  effects := []

/-- The background loops have ended: the traffic stream goes last. -/
def drained (client : Client) : Turn .unit :=
  client.deactivate .silent

end Client

namespace LoadGoal

/-- The catalog was loaded, or could not be. -/
def settle {yield : Yield} (client : Client) (outcome : Except CatalogError (List Region)) :
    LoadGoal yield → Turn yield
  | .silent => Turn.finished client (outcome.mapError ClientError.catalog)
  | .noticed =>
    match outcome with
    | .ok regions => Turn.finished client (.ok regions)
    | .error error =>
      Turn.finished (client.postError .regionLoad (.catalog error)) (.error (.catalog error))
  | .bootstrap =>
    match outcome with
    | .ok regions => client.refresh (.bootstrap regions.length)
    | .error error =>
      Turn.finished (client.postError .regionLoad (.catalog error)) (.error (.catalog error))

end LoadGoal

namespace RefreshGoal

/-- The inventory was refreshed. -/
def settle {yield : Yield} (client : Client) (report : RefreshReport) :
    RefreshGoal yield → Turn yield
  | .silent => Turn.finished client report
  | .noticed => Turn.finished (client.postFailures report) report
  | .bootstrap regions => (client.postFailures report).query (.bootstrap regions report)

end RefreshGoal

namespace QueryGoal

/-- The status was queried. -/
def settle {yield : Yield} (client : Client) (outcome : Except SessionError VpnSession) :
    QueryGoal yield → Turn yield
  | .silent => Turn.finished client (outcome.mapError ClientError.session)
  | .opened id =>
    match outcome with
    | .ok session =>
      Turn.finished (client.post .info .connect ("Connected to " ++ id)) (.ok session)
    | .error error =>
      Turn.finished (client.postError .connect (.session error)) (.error (.session error))
  | .bootstrap regions report =>
    Turn.finished client (.ok {
      regions
      instances := report.instances.length
      failedRegions := report.failedRegions
      session :=
        match outcome with
        | .ok session => session
        | .error _ => client.tracker.session })

end QueryGoal

namespace Resumption

/-- A spawn was answered. -/
def settleSpawn
    (client : Client)
    (placeholder : Placeholder)
    (reporting : Reporting)
    (answer : Except String SpawnedRecord) :
    Turn .server :=
  let (inventory, outcome) := client.inventory.settleSpawn client.alive placeholder answer
  let client := { client with inventory }
  match outcome, reporting with
  | .ok server, .silent => Turn.finished client (.ok server)
  | .ok server, .noticed =>
    Turn.finished
      (client.post .info .spawn ("Spawned " ++ server.id ++ " in " ++ server.region))
      (.ok server)
  | .error error, .silent => Turn.finished client (.error (.inventory error))
  | .error error, .noticed =>
    Turn.finished (client.postError .spawn (.inventory error)) (.error (.inventory error))

/-- A termination was answered; a session to the server is looked up again. -/
def settleTerminate
    (client : Client)
    (termination : Termination)
    (reporting : Reporting)
    (answer : Except String Unit) :
    Turn .unit :=
  let (inventory, outcome) := client.inventory.settleTerminate client.alive termination answer
  let client := { client with inventory }
  match outcome, reporting with
  | .ok (), .silent => Turn.finished client (.ok ())
  | .ok (), .noticed =>
    Turn.finished
      (client.reconcile.post .info .terminate ("Terminated " ++ termination.id)) (.ok ())
  | .error error, .silent => Turn.finished client (.error (.inventory error))
  | .error error, .noticed =>
    Turn.finished (client.postError .terminate (.inventory error)) (.error (.inventory error))

/-- The opening of a tunnel was answered; when it is open, the status is queried. -/
def settleConnect
    (client : Client)
    (target : Instance)
    (reporting : Reporting)
    (answer : Except String Unit) :
    Turn .session :=
  let (tracker, outcome) := client.tracker.settleConnect client.alive target.id answer
  let client := { client with tracker }
  match outcome, reporting with
  | .ok (), .silent => client.query .silent
  | .ok (), .noticed => client.query (.opened target.id)
  | .error error, .silent => Turn.finished client (.error (.session error))
  | .error error, .noticed =>
    Turn.finished (client.postError .connect (.session error)) (.error (.session error))

/-- The closing of a tunnel was answered; as a command it deactivates the traffic stream. -/
def settleDisconnect
    (client : Client)
    (reporting : Reporting)
    (answer : Except String Unit) :
    Turn .unit :=
  let (tracker, outcome) := client.tracker.settleDisconnect client.alive answer
  let client := { client with tracker }
  match reporting with
  | .silent => Turn.finished client (outcome.mapError ClientError.session)
  | .noticed => client.deactivate (.disconnection outcome)

/-- A subscription was answered; a feed that came late is closed again. -/
def settleActivate (client : Client) (generation : Nat) (answer : Except String String) :
    Turn .unit :=
  let (stream, outcome) := client.stream.settleActivate client.alive generation answer
  let client := { client with stream }
  match outcome with
  | .installed active =>
    { client, next := .finished (.ok ()), effects := [.startForwarder active] }
  | .late feed => Turn.awaiting client (.unsubscribe feed) (.close feed .silent)
  | .refused error => Turn.finished client (.error (.stream error))

/-- Credentials were accepted, and everything is loaded again, or they were refused. -/
def settleSave (client : Client) (credentials : Credentials) (answer : Except String Unit) :
    Turn .bootstrap :=
  match answer with
  | .ok () =>
    (client.post .info .credentials ("Saved " ++ credentials.provider ++ " credentials")).load
      .bootstrap
  | .error message =>
    let error := ClientError.credentials message
    Turn.finished (client.postError .credentials error) (.error error)

/-- Goes on with the answer of the backend. -/
def settle {call : Call} {yield : Yield} (client : Client) :
    Resumption call yield → call.Answer → Turn yield
  | .load goal, answer =>
    let (catalog, outcome) := client.catalog.settleLoad client.alive answer
    goal.settle { client with catalog } outcome
  | .spawn placeholder reporting, answer => settleSpawn client placeholder reporting answer
  | .terminate termination reporting, answer =>
    settleTerminate client termination reporting answer
  | .connect target reporting, answer => settleConnect client target reporting answer
  | .query began goal, answer =>
    let (tracker, outcome) :=
      client.tracker.settleQuery client.alive client.inventory.value began answer
    goal.settle { client with tracker } outcome
  | .disconnect reporting, answer => settleDisconnect client reporting answer
  | .activate generation, answer => settleActivate client generation answer
  | .close _ closing, _ => client.finishClose closing
  | .save credentials, answer => settleSave client credentials answer

end Resumption

namespace Client

/-- The listings of a sweep are in. -/
def settleSweep {yield : Yield} (client : Client) (sweep : Sweep) (goal : RefreshGoal yield) :
    Turn yield :=
  let report := sweep.report client.options.defaultName
  goal.settle
    { client with inventory := client.inventory.settleRefresh client.alive report } report

end Client

namespace Client

/-- A placeholder is given up by the spawn that it belongs to. -/
def discard (client : Client) (placeholder : Placeholder) : Client :=
  { client with inventory := client.inventory.discard client.alive placeholder.tempId }

end Client

namespace Resumption

/-- An operation is given up while it waits for an answer: a spawn takes its placeholder along. -/
def abandon {call : Call} {yield : Yield} (client : Client) : Resumption call yield → Client
  | .spawn placeholder _ => client.discard placeholder
  | _ => client

end Resumption

namespace Operation

/-- An operation is given up; a refresh counts itself out. -/
def abandon {yield : Yield} (client : Client) : Operation yield → Client
  | .awaiting _ resumption => resumption.abandon client
  | .sweeping _ _ => { client with inventory := client.inventory.endRefresh }
  | .draining => client

end Operation
end VpnFleet
