import VpnFleet.Cli.Relay

/-!
# The program

Reads the command line, the environment and the settings file, carries the
request out with a relay to the helper, and writes what the run leaves. The
relay listens on one file and answers on another, each named by a variable of
the environment.
-/

namespace VpnFleet
namespace Cli

/-- The two ends of a relay. -/
structure Relay where
  ask : IO.FS.Handle
  answer : IO.FS.Handle

/-- The variables of the environment that are settings. -/
def settingVariables : List String :=
  Settings.pathVariable :: [SettingName.backendBin, .displayName, .statusPoll, .metricsPoll,
    .maxRegionQueries, .metricsBuffer].map SettingName.envVar

/-- The variables that are set. -/
def readEnv (names : List String) : IO (List (String × String)) :=
  names.filterMapM fun name => do return (← IO.getEnv name).map fun value => (name, value)

/-- The content of the first file that can be read. -/
def readFirst (paths : List String) : IO (Option String) :=
  paths.findSomeM? fun (path : String) => do
    try return some (← IO.FS.readFile path)
    catch _ => return none

/-- Opens the relay that the environment names. -/
def openRelay : IO (Option Relay) := do
  match ← IO.getEnv "BYOCVPN_RELAY_ASK", ← IO.getEnv "BYOCVPN_RELAY_ANSWER" with
  | some ask, some answer =>
    return some {
      ask := ← IO.FS.Handle.mk ask .write
      answer := ← IO.FS.Handle.mk answer .read }
  | _, _ => return none

/-- Takes a question to the helper. -/
def takeQuestion (relay : Option Relay) (invocation : Invocation) : IO RelayAnswer := do
  match relay with
  | none => return .error "no relay to the helper"
  | some relay =>
    relay.ask.putStrLn (writeQuestion invocation)
    relay.ask.flush
    return readAnswer (← relay.answer.getLine)

/-- Asks until the run comes to its result. -/
partial def finishRun (relay : Option Relay) (turn : List RelayAnswer → RelayTurn)
    (answers : List RelayAnswer) : IO (RunResult × List RelayAnswer) := do
  match turn answers with
  | .finished result => return (result, answers)
  | .asks invocation =>
    finishRun relay turn (answers ++ [← takeQuestion relay invocation])

/-- Runs a watch of growing length, an interval apart, and writes each view as it comes. -/
def runWatch (relay : Option Relay) (turn : Nat → List RelayAnswer → RelayTurn)
    (interval ticks : Nat) : IO RunResult := do
  let mut (result, answers) ← finishRun relay (turn 0) []
  for tick in [1:ticks + 1] do
    if result.code ≠ 0 then return result
    IO.sleep interval.toUInt32
    let shown := result.stdout.length
    (result, answers) ← finishRun relay (turn tick) answers
    IO.print (String.ofList (result.stdout.toList.drop shown))
    (← IO.getStdout).flush
  return { result with stdout := "" }

/-- Draws a salt for temporary identifiers. -/
def drawSalt : IO Nat := do
  return (← IO.getRandomBytes 4).data.foldl (fun salt octet => salt * 256 + octet.toNat) 0

/-- Runs a request. -/
def runRequest (request : Request) : IO RunResult := do
  let env ← readEnv settingVariables
  let home := (← IO.getEnv "HOME").getD ""
  let configHome := (← IO.getEnv "XDG_CONFIG_HOME").getD (home ++ "/.config")
  let file ← readFirst (Settings.searchPath env configHome home)
  let relay ← openRelay
  let salt ← drawSalt
  match request, usableSettings env file with
  | .watch ticks, .ok settings =>
    runWatch relay (fun ticks => relayTurn env file salt (.watch ticks)) settings.statusPollMs ticks
  | request, _ => return (← finishRun relay (relayTurn env file salt request) []).1

end Cli
end VpnFleet

/-- The program with its arguments; the result is its exit code. -/
def main (arguments : List String) : IO UInt32 := do
  let secret ← IO.getEnv VpnFleet.Cli.Request.secretVariable
  match VpnFleet.Cli.Request.ofArguments secret arguments with
  | .error error =>
    if error ≠ .help then IO.eprintln "the arguments cannot be used"
    return error.exitCode.toUInt32
  | .ok request =>
    let result ← VpnFleet.Cli.runRequest request
    IO.print result.stdout
    IO.eprint result.stderr
    return result.code.toUInt32
