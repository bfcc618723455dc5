import VpnFleet.Credentials
import VpnFleet.Wire

/-!
# Calls to the backend

Everything the client asks of the outside world is one of ten calls. A call
says by its type what a successful answer holds; a failed answer is a message.
-/

namespace VpnFleet

/-- A question to the backend. -/
inductive Call where
  | listRegions
  | listInstances (region : String)
  | spawn (region : String)
  | terminate (id region : String)
  | connect (id region : String)
  | disconnect
  | status
  | subscribe
  | unsubscribe (feed : String)
  | saveCredentials (credentials : Credentials)
deriving DecidableEq

namespace Call

/-- What a successful answer holds. A subscription is answered by the identifier of its feed. -/
def Reply : Call → Type
  | listRegions => List RegionRecord
  | listInstances _ => List InstanceRecord
  | spawn _ => SpawnedRecord
  | terminate _ _ => Unit
  | connect _ _ => Unit
  | disconnect => Unit
  | status => StatusRecord
  | subscribe => String
  | unsubscribe _ => Unit
  | saveCredentials _ => Unit

/-- An answer: a reply or the message of a failure. -/
abbrev Answer (call : Call) : Type :=
  Except String call.Reply

end Call

/-- The part of the backend that a call belongs to. -/
inductive Service where
  | listRegions
  | listInstances
  | spawn
  | terminate
  | connect
  | disconnect
  | status
  | subscribe
  | unsubscribe
  | saveCredentials
deriving DecidableEq, Repr

namespace Call

/-- The service that a call uses. -/
def service : Call → Service
  | listRegions => .listRegions
  | listInstances _ => .listInstances
  | spawn _ => .spawn
  | terminate _ _ => .terminate
  | connect _ _ => .connect
  | disconnect => .disconnect
  | status => .status
  | subscribe => .subscribe
  | unsubscribe _ => .unsubscribe
  | saveCredentials _ => .saveCredentials

end Call
end VpnFleet
