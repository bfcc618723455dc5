import VpnFleet.Cli.Arguments
import VpnFleet.Settings.Value

/-!
# Requests of the command line

The nine subcommands and how their arguments are read. The secret of the
credentials may come from the environment instead of an option.
-/

namespace VpnFleet
namespace Cli

/-- What the command line asks for. -/
inductive Request where
  | regions
  | instances
  | spawn (region : String)
  | terminate (id : String)
  | connect (id : String)
  | disconnect
  | status
  | watch (ticks : Nat)
  | credentials (provider accessKeyId secretAccessKey : String)
deriving DecidableEq, Repr

namespace Request

/-- The name of the subcommand. -/
def name : Request → String
  | regions => "regions"
  | instances => "instances"
  | spawn _ => "spawn"
  | terminate _ => "terminate"
  | connect _ => "connect"
  | disconnect => "disconnect"
  | status => "status"
  | watch _ => "watch"
  | credentials _ _ _ => "credentials"

/-- The variable that the secret may come from. -/
def secretVariable : String :=
  "BYOCVPN_SECRET_ACCESS_KEY"

/-- How many views are written when nothing else is said. -/
def defaultTicks : Nat :=
  10

/-- The provider when nothing else is said. -/
def defaultProvider : String :=
  "aws"

/-- The number of views: an integer with an optional sign, below `2 ^ 32`. -/
def ticks? (text : String) : Option Nat :=
  let (negative, digits) := SettingValue.splitSign text.toList
  let value := SettingValue.digitsValue digits
  if SettingValue.isDigits digits && value < 1 <<< 32 && (!negative || value = 0) then some value
  else none

/-- A subcommand without arguments. -/
def plainRules : Rules where
  options := []
  takesWord := false

/-- A subcommand with one free argument. -/
def wordRules : Rules where
  options := []
  takesWord := true

/-- The arguments of the watch. -/
def watchRules : Rules where
  options := [⟨"ticks", fun text => (ticks? text).isSome⟩]
  takesWord := false

/-- An option that accepts any value. -/
def anyText (name : String) : OptionRule :=
  ⟨name, fun _ => true⟩

/-- The arguments of the credentials. -/
def credentialsRules : Rules where
  options := [anyText "provider", anyText "access-key-id", anyText "secret-access-key"]
  takesWord := false

/-- What has to be given. -/
def required {α : Type} : Option α → Except UsageError α
  | some value => .ok value
  | none => .error .missingArgument

/-- A request without arguments. -/
def readPlain (request : Request) (arguments : List String) : Except UsageError Request := do
  let _ ← plainRules.read arguments
  return request

/-- A request with one free argument. -/
def readWord (request : String → Request) (arguments : List String) :
    Except UsageError Request := do
  let taken ← wordRules.read arguments
  return request (← required taken.word)

/-- A watch. -/
def readWatch (arguments : List String) : Except UsageError Request := do
  let taken ← watchRules.read arguments
  return watch (((taken.value? "ticks").bind ticks?).getD defaultTicks)

/-- Credentials; the option comes before the environment. -/
def readCredentials (secret : Option String) (arguments : List String) :
    Except UsageError Request := do
  let taken ← credentialsRules.read arguments
  let accessKeyId ← required (taken.value? "access-key-id")
  let secretAccessKey ← required ((taken.value? "secret-access-key").or secret)
  return credentials ((taken.value? "provider").getD defaultProvider) accessKeyId secretAccessKey

/-- The subcommands with their readers. -/
def subcommands (secret : Option String) :
    List (String × (List String → Except UsageError Request)) := [
  ("regions", readPlain regions),
  ("instances", readPlain instances),
  ("spawn", readWord spawn),
  ("terminate", readWord terminate),
  ("connect", readWord connect),
  ("disconnect", readPlain disconnect),
  ("status", readPlain status),
  ("watch", readWatch),
  ("credentials", readCredentials secret)]

/-- The subcommand that explains the others. -/
def helpName : String :=
  "help"

/-- The text names a subcommand. -/
def isSubcommand (text : String) : Bool :=
  text = helpName || ((subcommands none).lookup text).isSome

/-- Help for a subcommand, or for all of them. -/
def readHelp : List String → UsageError
  | [] => .help
  | [topic] => if isSubcommand topic then .help else .unknownSubcommand
  | _ => .unknownSubcommand

/-- Behind two hyphens no subcommand can stand. -/
def behindDivider : List String → UsageError
  | [] => .nothing
  | argument :: _ => if isSubcommand argument then .unknownArgument else .unknownSubcommand

/-- The request of a command line, without the program's name. -/
def ofArguments (secret : Option String) : List String → Except UsageError Request
  | [] => .error .nothing
  | argument :: rest =>
    match Shape.ofArgument argument with
    | .divider => .error (behindDivider rest)
    | .long "help" none => .error .help
    | .long "help" (some _) => .error .needlessValue
    | .long _ _ => .error .unknownArgument
    | .short letter => .error (if letter = 'h' then .help else .unknownArgument)
    | .word text =>
      if text = helpName then .error (readHelp rest)
      else
        match (subcommands secret).lookup text with
        | some read => read rest
        | none => .error .unknownSubcommand

end Request
end Cli
end VpnFleet
