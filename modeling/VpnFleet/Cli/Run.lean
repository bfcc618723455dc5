import VpnFleet.Cli.Request
import VpnFleet.Cli.Screen
import VpnFleet.Client.Direct
import VpnFleet.Schedule.Request
import VpnFleet.Settings.Load

/-!
# Runs of the command line

A request is carried out by a client of its own on the helper. Most requests
load what they need and then run one command; a failure ends the run with an
error text and without output. A watch starts the background loops and writes
one view per interval of the status poll.
-/

namespace VpnFleet
namespace Cli

/-- Why a request failed. -/
inductive Failure where
  | settings (error : SettingsError)
  | client (error : ClientError)
deriving DecidableEq, Repr

namespace Failure

/-- The text of the failure. -/
def message : Failure → String
  | settings error => "configuration error: " ++ error.message
  | client error => error.message

end Failure

/-- A client on the helper. -/
structure Desk where
  client : Client
  transport : Transport

/-- The desk after some work, with what the work came to. -/
abbrev Work (α : Type) : Type :=
  Desk × Except ClientError α

namespace Desk

/-- A desk at which nothing has happened. -/
def new (settings : Settings) (salt : Nat) (source : HelperSource) : Desk where
  client := Client.new settings salt
  transport := Transport.new settings source

/-- Runs a command. -/
def perform {yield : Yield} (desk : Desk) (command : Command yield) : Desk × yield.Value :=
  let (client, transport, value) :=
    command.run (fun call transport => transport.answer call) desk.client desk.transport
  ({ client, transport }, value)

/-- The session as the desk sees it. -/
def sessionScreen (desk : Desk) (session : VpnSession) : String :=
  Cli.sessionScreen session desk.client.tracker.value.phase

end Desk

namespace Work

/-- Goes on with what the work came to, unless it failed. -/
def andThen {α β : Type} (work : Work α) (next : Desk → α → Work β) : Work β :=
  match work with
  | (desk, .ok value) => next desk value
  | (desk, .error error) => (desk, .error error)

/-- Shows what the work came to. -/
def shown {α : Type} (work : Work α) (screen : Desk → α → String) : Work String :=
  work.andThen fun desk value => (desk, .ok (screen desk value))

end Work

/-- Views of a watch, each just before the poll that is due. -/
def views (wait interval : Nat) : Nat → World → String × World
  | 0, world => ("", world)
  | ticks + 1, world =>
    let world := world.advance wait
    let (rest, last) := views interval interval ticks world
    (viewScreen world.client.view ++ rest, last)

/-- Writes views while the background loops run, and shuts the client down. -/
def watch (settings : Settings) (ticks : Nat) (desk : Desk) : Work String :=
  let world := World.new desk.client (.helper desk.transport)
  let started := world.start.getD world
  let (text, world) := views (settings.statusPollMs - 1) settings.statusPollMs ticks started
  let world := (world.submit "shutdown" Command.shutdown).getD world
  let transport :=
    match world.backend with
    | .helper transport => transport
    | .scripted _ => desk.transport
  ({ client := world.client, transport }, .ok text)

/-- What is said when credentials were saved. -/
def savedLine (credentials : Credentials) (report : BootstrapReport) : String :=
  line ("saved " ++ credentials.provider ++ " credentials: " ++ toString report.regions
    ++ " regions, " ++ toString report.instances ++ " instances")

namespace Request

/-- Carries a request out. -/
def carryOut (settings : Settings) (desk : Desk) : Request → Work String
  | regions =>
    Work.shown (desk.perform .reloadRegions) fun desk _ =>
      regionsScreen desk.client.catalog.value.groups
  | instances =>
    Work.shown (desk.perform .bootstrap) fun desk _ =>
      instancesScreen desk.client.view.instances
        ++ unreachableScreen desk.client.view.failedRegions
  | spawn region =>
    Work.andThen (desk.perform .reloadRegions) fun desk _ =>
      Work.shown (desk.perform (.spawn region)) fun _ server => instancesScreen [server]
  | terminate id =>
    Work.andThen (desk.perform .bootstrap) fun desk _ =>
      Work.shown (desk.perform (.terminate id)) fun _ _ => line ("terminated " ++ id)
  | connect id =>
    Work.andThen (desk.perform .bootstrap) fun desk _ =>
      Work.shown (desk.perform (.connect id)) Desk.sessionScreen
  | disconnect =>
    Work.shown (desk.perform .disconnect) fun _ _ => line "disconnected"
  | status =>
    Work.shown (desk.perform .bootstrap) fun desk _ =>
      desk.sessionScreen desk.client.tracker.session
  | watch ticks =>
    Work.andThen (desk.perform .bootstrap) fun desk _ => Cli.watch settings ticks desk
  | credentials provider accessKeyId secretAccessKey =>
    let credentials := Credentials.entered provider accessKeyId secretAccessKey
    Work.shown (desk.perform (.saveCredentials credentials)) fun _ report =>
      savedLine credentials report

end Request

/-- What a run leaves. -/
structure RunResult where
  code : Nat
  stdout : String
  stderr : String
  /-- The runs of the helper, the oldest first. -/
  log : List Invocation
deriving DecidableEq, Repr

namespace RunResult

/-- A run that failed. -/
def failed (failure : Failure) (log : List Invocation) : RunResult where
  code := 1
  stdout := ""
  stderr := line failure.message
  log := log

/-- A run whose request was carried out, or not. -/
def ofWork (work : Work String) : RunResult :=
  let log := work.1.transport.helper.log
  match work.2 with
  | .ok text => { code := 0, stdout := text, stderr := "", log }
  | .error error => failed (.client error) log

end RunResult

/-- The settings of a run, usable ones. -/
def usableSettings (env : List (String × String)) (file : Option String) :
    Except SettingsError Settings := do
  let settings ← Settings.load env file
  settings.validate
  return settings

/-- Runs a request with an environment, a settings file, a salt for temporary identifiers and the
helper. -/
def run
    (env : List (String × String))
    (file : Option String)
    (salt : Nat)
    (source : HelperSource)
    (request : Request) :
    RunResult :=
  match usableSettings env file with
  | .ok settings => RunResult.ofWork (request.carryOut settings (Desk.new settings salt source))
  | .error error => RunResult.failed (.settings error) []

end Cli
end VpnFleet
