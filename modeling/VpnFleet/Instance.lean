import VpnFleet.Text.Blank
import VpnFleet.Text.Hex
import VpnFleet.Wire

/-!
# Instances and placeholders

An instance is a server as its readers see it. While a spawn is under way a
placeholder stands in for the server to come; it is shown as a spawning
instance without addresses, under a temporary identifier.
-/

namespace VpnFleet

/-- The life of a server. -/
inductive Lifecycle where
  | spawning
  | running
  | terminating
  /-- The backend reported a state that the client does not know. -/
  | error
deriving DecidableEq, Repr

namespace Lifecycle

/-- The word shown for a state. -/
def label : Lifecycle → String
  | spawning => "spawning"
  | running => "running"
  | terminating => "terminating"
  | error => "error"

/-- ASCII letters in lower case; no other character changes. -/
def lowerCase (s : String) : String :=
  String.ofList (s.toList.map Char.toLower)

/-- The state that a backend word stands for, blanks around it and case aside. -/
def ofBackend (state : String) : Lifecycle :=
  match lowerCase (Text.trim state) with
  | "pending" => spawning
  | "running" => running
  | "shutting-down" => terminating
  | "stopping" => terminating
  | "terminated" => terminating
  | _ => error

end Lifecycle

/-- A server. -/
structure Instance where
  id : String
  name : String
  lifecycle : Lifecycle
  /-- Empty while no address is assigned. -/
  publicV4 : String
  publicV6 : Option String
  region : String
deriving DecidableEq, Repr

/-- Why an instance cannot be the end of a tunnel. -/
inductive NotConnectable where
  /-- The server is still being created. -/
  | pending
  /-- No region is recorded. -/
  | emptyRegion
deriving DecidableEq, Repr

namespace Instance

/-- How temporary identifiers start. -/
def pendingPrefix : String :=
  "pending-"

/-- A listed server, tagged with the region it was listed in. -/
def ofRecord (record : InstanceRecord) (region defaultName : String) : Instance where
  id := record.id
  name := (record.name.bind Text.nonBlank).getD defaultName
  lifecycle := Lifecycle.ofBackend record.state
  publicV4 := record.publicV4
  publicV6 := Text.nonBlank record.publicV6
  region := region

/-- A server that was just created. -/
def ofSpawned (record : SpawnedRecord) (name : String) : Instance where
  id := record.id
  name := name
  lifecycle := .running
  publicV4 := record.publicV4
  publicV6 := record.publicV6.bind Text.nonBlank
  region := record.region

/-- The identifier starts like a temporary one. -/
def hasPendingId (id : String) : Bool :=
  pendingPrefix.toList.isPrefixOf id.toList

/-- The instance stands in for a server that is being created. -/
def isPlaceholder (server : Instance) : Bool :=
  server.lifecycle = .spawning && hasPendingId server.id

/-- A tunnel needs a server that exists and has a region. -/
def ensureConnectable (server : Instance) : Except NotConnectable Unit :=
  if server.isPlaceholder then .error .pending
  else if Text.isBlank server.region then .error .emptyRegion
  else .ok ()

end Instance

/-- The stand-in for a server that is being created. -/
structure Placeholder where
  tempId : String
  region : String
  name : String
deriving DecidableEq, Repr

namespace Placeholder

/-- The temporary identifier with a given serial number. The salt sets it apart from identifiers
that others give out. -/
def tempIdOf (salt serial : Nat) : String :=
  Instance.pendingPrefix ++ String.ofList (Text.paddedHex 8 salt) ++ "-0000-4000-8000-"
    ++ String.ofList (Text.paddedHex 12 serial)

/-- The placeholder as its readers see it. -/
def toInstance (placeholder : Placeholder) : Instance where
  id := placeholder.tempId
  name := placeholder.name
  lifecycle := .spawning
  publicV4 := ""
  publicV6 := none
  region := placeholder.region

end Placeholder
end VpnFleet
