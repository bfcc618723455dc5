import VpnFleet.Json.Form
import VpnFleet.Json.Record

/-!
# Records of the backend

What the backend answers, field by field, before it is turned into the client's
own types, and how each record is read from a JSON value.
-/

namespace VpnFleet

/-- A region as listed. -/
structure RegionRecord where
  name : String
  country : String
deriving DecidableEq, Repr

/-- An instance as listed in one region. -/
structure InstanceRecord where
  id : String
  name : Option String
  state : String
  /-- Empty while no address is assigned. -/
  publicV4 : String
  /-- Empty when no address is assigned. -/
  publicV6 : String
  region : Option String
deriving DecidableEq, Repr

/-- The answer to a successful spawn. -/
structure SpawnedRecord where
  id : String
  publicV4 : String
  publicV6 : Option String
  region : String
deriving DecidableEq, Repr

/-- The state of the tunnel. -/
structure StatusRecord where
  connected : Bool
  instanceId : Option String
  publicV4 : Option String
  publicV6 : Option String
deriving DecidableEq, Repr

/-- One sample of the traffic counters. -/
structure TrafficRecord where
  bytesSent : Nat
  bytesReceived : Nat
  packetsSent : Nat
  packetsReceived : Nat
  uploadRate : Float
  downloadRate : Float
deriving Repr

namespace RegionRecord

/-- The form of the record. -/
def form : Json.RecordForm where
  title := "a region"
  fields := [
    { name := "name", form := .text, required := true },
    { name := "country", form := .text, required := true }]

/-- Both fields have to be given. -/
def ofJson? (value : Json) : Option RegionRecord := do
  let fields ← value.fields? form.names
  return {
    name := ← fields.required? "name" Json.text?
    country := ← fields.required? "country" Json.text? }

end RegionRecord

namespace InstanceRecord

/-- The form of the record. -/
def form : Json.RecordForm where
  title := "an instance"
  fields := [
    { name := "id", form := .text, required := true },
    { name := "name", form := .maybeText, required := false },
    { name := "state", form := .text, required := true },
    { name := "public_ip_v4", form := .text, required := false },
    { name := "public_ip_v6", form := .text, required := false },
    { name := "region", form := .maybeText, required := false }]

/-- Identifier and state have to be given. -/
def ofJson? (value : Json) : Option InstanceRecord := do
  let fields ← value.fields? form.names
  return {
    id := ← fields.required? "id" Json.text?
    name := ← fields.given? "name" none Json.maybeText?
    state := ← fields.required? "state" Json.text?
    publicV4 := ← fields.given? "public_ip_v4" "" Json.text?
    publicV6 := ← fields.given? "public_ip_v6" "" Json.text?
    region := ← fields.given? "region" none Json.maybeText? }

end InstanceRecord

namespace SpawnedRecord

/-- The form of the record. -/
def form : Json.RecordForm where
  title := "a spawned instance"
  fields := [
    { name := "instance_id", form := .text, required := true },
    { name := "public_ip_v4", form := .text, required := true },
    { name := "public_ip_v6", form := .maybeText, required := false },
    { name := "region", form := .text, required := true }]

/-- All but the second address have to be given. -/
def ofJson? (value : Json) : Option SpawnedRecord := do
  let fields ← value.fields? form.names
  return {
    id := ← fields.required? "instance_id" Json.text?
    publicV4 := ← fields.required? "public_ip_v4" Json.text?
    publicV6 := ← fields.given? "public_ip_v6" none Json.maybeText?
    region := ← fields.required? "region" Json.text? }

end SpawnedRecord

namespace StatusRecord

/-- The form of the record. -/
def form : Json.RecordForm where
  title := "a status"
  fields := [
    { name := "connected", form := .flag, required := true },
    { name := "instance_id", form := .maybeText, required := false },
    { name := "public_ip_v4", form := .maybeText, required := false },
    { name := "public_ip_v6", form := .maybeText, required := false }]

/-- No tunnel. -/
def idle : StatusRecord :=
  { connected := false, instanceId := none, publicV4 := none, publicV6 := none }

/-- A tunnel to an instance, addresses unknown. -/
def tunnelTo (id : String) : StatusRecord :=
  { connected := true, instanceId := some id, publicV4 := none, publicV6 := none }

/-- Only the flag has to be given. -/
def ofJson? (value : Json) : Option StatusRecord := do
  let fields ← value.fields? form.names
  return {
    connected := ← fields.required? "connected" Json.flag?
    instanceId := ← fields.given? "instance_id" none Json.maybeText?
    publicV4 := ← fields.given? "public_ip_v4" none Json.maybeText?
    publicV6 := ← fields.given? "public_ip_v6" none Json.maybeText? }

end StatusRecord

namespace TrafficRecord

/-- The form of the record. -/
def form : Json.RecordForm where
  title := "a sample"
  fields := [
    { name := "bytes_sent", form := .count, required := true },
    { name := "bytes_received", form := .count, required := true },
    { name := "packets_sent", form := .count, required := true },
    { name := "packets_received", form := .count, required := true },
    { name := "upload_rate", form := .rate, required := true },
    { name := "download_rate", form := .rate, required := true }]

/-- All six fields have to be given. -/
def ofJson? (value : Json) : Option TrafficRecord := do
  let fields ← value.fields? form.names
  return {
    bytesSent := ← fields.required? "bytes_sent" Json.count?
    bytesReceived := ← fields.required? "bytes_received" Json.count?
    packetsSent := ← fields.required? "packets_sent" Json.count?
    packetsReceived := ← fields.required? "packets_received" Json.count?
    uploadRate := ← fields.required? "upload_rate" Json.rate?
    downloadRate := ← fields.required? "download_rate" Json.rate? }

end TrafficRecord
end VpnFleet
