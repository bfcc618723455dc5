import VpnFleet.Client.Operation

/-!
# Commands

What can be asked of a client. The first nine are commands of the whole client
and post notices; the others drive one of its parts and post none.
-/

namespace VpnFleet

/-- A command, by what it results in. -/
inductive Command : Yield → Type where
  | bootstrap : Command .bootstrap
  | reloadRegions : Command .regions
  | refresh : Command .report
  | spawn (region : String) : Command .server
  | terminate (id : String) : Command .unit
  | connect (id : String) : Command .session
  | disconnect : Command .unit
  | saveCredentials (credentials : Credentials) : Command .bootstrap
  | shutdown : Command .unit
  | loadCatalog : Command .regions
  | refreshInventory : Command .report
  | spawnServer (region : String) : Command .server
  | terminateServer (id : String) : Command .unit
  | openTunnel (target : Instance) : Command .session
  | closeTunnel : Command .unit
  | queryStatus : Command .session
  | activateStream : Command .unit
  | deactivateStream : Command .unit

namespace Command

/-- A command of the whole client, which has to be there as long as the command runs. -/
def needsClient {yield : Yield} : Command yield → Bool
  | .bootstrap => true
  | .reloadRegions => true
  | .refresh => true
  | .spawn _ => true
  | .terminate _ => true
  | .connect _ => true
  | .disconnect => true
  | .saveCredentials _ => true
  | .shutdown => true
  | _ => false

/-- Starts a command: the client after the part that needs no answer, and what is left. -/
def start {yield : Yield} (client : Client) : Command yield → Turn yield
  | .bootstrap => client.load .bootstrap
  | .reloadRegions => client.load .noticed
  | .refresh => client.refresh .noticed
  | .spawn region => client.spawn region .noticed
  | .terminate id => client.terminate id .noticed
  | .connect id => client.connect id
  | .disconnect => Turn.awaiting client .disconnect (.disconnect .noticed)
  | .saveCredentials credentials =>
    Turn.awaiting client (.saveCredentials credentials) (.save credentials)
  | .shutdown => client.shutdown
  | .loadCatalog => client.load .silent
  | .refreshInventory => client.refresh .silent
  | .spawnServer region => client.spawn region .silent
  | .terminateServer id => client.terminate id .silent
  | .openTunnel target => client.openTunnel target .silent
  | .closeTunnel => Turn.awaiting client .disconnect (.disconnect .silent)
  | .queryStatus => client.query .silent
  | .activateStream => client.activate
  | .deactivateStream => client.deactivate .silent

end Command
end VpnFleet
