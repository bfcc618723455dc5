import VpnFleet.Client.Basic
import VpnFleet.Decimal.Fixed

/-!
# What the command line shows

Each function writes one part of the output, line by line.
-/

namespace VpnFleet
namespace Cli

/-- A line of output. -/
def line (text : String) : String :=
  text ++ "\n"

/-- The lines of several items. -/
def lines {α : Type} (linesOf : α → String) (items : List α) : String :=
  String.join (items.map linesOf)

/-- Fields of a line with tabs between. -/
def tabbed (fields : List String) : String :=
  line ("\t".intercalate fields)

/-- A region below its continent. -/
def regionLine (region : Region) : String :=
  line ("  " ++ region.code ++ "\t" ++ region.country)

/-- A continent with its regions. -/
def groupLines (group : RegionGroup) : String :=
  line group.continent ++ lines regionLine group.regions

/-- The catalog. -/
def regionsScreen (groups : List RegionGroup) : String :=
  lines groupLines groups

/-- A server; a hyphen stands for a missing address. -/
def instanceLine (server : Instance) : String :=
  tabbed [server.id, server.name, server.region, server.lifecycle.label,
    if server.publicV4.isEmpty then "-" else server.publicV4]

/-- The servers. -/
def instancesScreen (instances : List Instance) : String :=
  if instances.isEmpty then line "no instances" else lines instanceLine instances

/-- The regions that could not be listed, if there are any. -/
def unreachableScreen (regions : List String) : String :=
  if regions.isEmpty then ""
  else line ("unreachable regions: " ++ InventoryError.listed regions)

/-- The word for a state of the session. -/
def phaseLabel : SessionPhase → String
  | .disconnected => "disconnected"
  | .connecting => "connecting"
  | .connected => "connected"
  | .error => "error"

/-- The session. -/
def sessionScreen (session : VpnSession) (phase : SessionPhase) : String :=
  match session with
  | .disconnected => line (phaseLabel phase)
  | .connected server resolved =>
    line ("connected to " ++ server.id
      ++ " in " ++ (if server.region.isEmpty then "unknown region" else server.region)
      ++ " at " ++ server.publicV4
      ++ (if resolved then "" else " (not in inventory)"))

/-- The counters of one direction. -/
def trafficPart (word : String) (bytes : Nat) (rate : Float) : String :=
  word ++ " " ++ toString bytes ++ " B (" ++ Decimal.onePlace rate ++ " B/s)"

/-- The counters. -/
def trafficLine (traffic : Traffic) : String :=
  line ("  " ++ trafficPart "sent" traffic.bytesSent traffic.uploadRate
    ++ "  " ++ trafficPart "received" traffic.bytesReceived traffic.downloadRate)

/-- A notice. -/
def noticeLine (notice : Notice) : String :=
  line ("  [" ++ notice.kind.label ++ "] " ++ notice.message)

/-- One view of a watch. -/
def viewScreen (view : Dashboard) : String :=
  sessionScreen view.session view.phase
    ++ (view.traffic.map trafficLine).getD ""
    ++ lines noticeLine view.notices

end Cli
end VpnFleet
