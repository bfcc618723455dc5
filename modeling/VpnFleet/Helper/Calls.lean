import VpnFleet.Backend.Call
import VpnFleet.Helper.Basic
import VpnFleet.Json.Diagnosis

/-!
# Calls as runs of the helper

The arguments of each call, the name of the resource that its errors speak of,
and how its output is read. Queries ask for JSON and decode it; the other calls
only look at the exit code. A subscription is not a run of its own: it samples
the traffic counters.
-/

namespace VpnFleet
namespace Call

/-- The arguments that ask for JSON. -/
def asJson (args : List String) : List String :=
  args ++ ["-o", "json"]

/-- The arguments of a sample of the traffic counters. -/
def sampleArgs : List String :=
  asJson ["vpn", "metrics"]

/-- The resource that errors of a sample speak of. -/
def sampleResource : String :=
  "metrics"

/-- The arguments of a call. -/
def args : Call → List String
  | listRegions => asJson ["regions", "list"]
  | listInstances region => asJson ["instances", "list", "--region", region]
  | spawn region => asJson ["instances", "spawn", "--region", region]
  | terminate id region => ["instances", "terminate", id, "--region", region]
  | connect id region => ["vpn", "connect", id, "--region", region]
  | disconnect => ["vpn", "disconnect"]
  | status => asJson ["vpn", "status"]
  | subscribe => sampleArgs
  | unsubscribe _ => []
  | saveCredentials credentials => ["credentials", "save", "--provider", credentials.provider]

/-- The text on standard input of a call. -/
def stdin : Call → Option String
  | saveCredentials credentials => some credentials.payload
  | _ => none

/-- The resource that errors of a call speak of. -/
def resource : Call → String
  | listRegions => "regions"
  | listInstances _ => "instances"
  | spawn _ => "instance spawn"
  | terminate _ _ => "instance terminate"
  | connect _ _ => "vpn connect"
  | disconnect => "vpn disconnect"
  | status => "vpn status"
  | subscribe => sampleResource
  | unsubscribe _ => sampleResource
  | saveCredentials _ => "credentials save"

end Call

namespace Helper

/-- The run of the helper behind a call. -/
def invocation (program : String) (call : Call) : Invocation where
  program := program
  args := call.args
  stdin := call.stdin

/-- Reads the JSON output of a run; an output of another form is refused with its first fault. -/
def decode
    {α : Type}
    (resource : String)
    (form : Json.Form)
    (decode? : Json → Option α)
    (output : HelperOutput) :
    Except HelperError α :=
  match (Json.ofText? output.stdout).bind decode? with
  | some value => .ok value
  | none => .error (.parse resource (form.complaint output.stdout))

/-- A call that only looks at the exit code. -/
def execute (helper : Helper) (program : String) (call : Call) :
    Helper × Except HelperError Unit :=
  match helper.runChecked (invocation program call) call.resource with
  | (helper, .ok _) => (helper, .ok ())
  | (helper, .error error) => (helper, .error error)

/-- A call whose output is decoded. -/
def query
    {α : Type}
    (helper : Helper)
    (program : String)
    (call : Call)
    (form : Json.Form)
    (decode? : Json → Option α) :
    Helper × Except HelperError α :=
  match helper.runChecked (invocation program call) call.resource with
  | (helper, .ok output) => (helper, decode call.resource form decode? output)
  | (helper, .error error) => (helper, .error error)

/-- Takes a sample of the traffic counters. -/
def sample (helper : Helper) (program : String) : Helper × Except HelperError TrafficRecord :=
  helper.query program .subscribe (.record TrafficRecord.form) TrafficRecord.ofJson?

end Helper
end VpnFleet
