import VpnFleet.Text.Blank

/-!
# The helper program

The backend is reached through a helper program. An invocation names the
program, its arguments and, for one of them, a text on standard input. The
helper answers with an exit code and two texts, or cannot be run at all.
-/

namespace VpnFleet

/-- One run of the helper. -/
structure Invocation where
  program : String
  args : List String
  stdin : Option String
deriving DecidableEq, Repr

namespace Invocation

/-- The arguments in one line. -/
def argumentLine (invocation : Invocation) : String :=
  " ".intercalate invocation.args

/-- Program and arguments in one line. -/
def commandLine (invocation : Invocation) : String :=
  " ".intercalate (invocation.program :: invocation.args)

end Invocation

/-- What a run of the helper leaves. -/
structure HelperOutput where
  /-- Missing when the helper died from a signal. -/
  code : Option Int
  stdout : String
  stderr : String
deriving DecidableEq, Repr

namespace HelperOutput

/-- The helper succeeded. -/
def isSuccess (output : HelperOutput) : Bool :=
  output.code = some 0

/-- The exit code as a text. -/
def statusText : Option Int → String
  | some code => toString code
  | none => "unknown"

end HelperOutput

/-- Why a call through the helper failed. -/
inductive HelperError where
  /-- The helper could not be run. -/
  | spawn (program message : String)
  /-- The helper reported a failure. -/
  | failure (program : String) (status : Option Int) (stderr : String)
  /-- The output of the helper is not what the call expects. -/
  | parse (resource detail : String)
deriving DecidableEq, Repr

namespace HelperError

/-- The text of the error. -/
def message : HelperError → String
  | spawn program message => "failed to run " ++ program ++ ": " ++ message
  | failure program status stderr =>
    program ++ " exited with status " ++ HelperOutput.statusText status ++ ": " ++ stderr
  | parse resource detail => "failed to parse " ++ resource ++ " output: " ++ detail

end HelperError

/-- Where the answers of the helper come from. -/
inductive HelperSource where
  /-- Prepared answers, each given once; without one the helper cannot be run. -/
  | queue (outputs : List HelperOutput)
  /-- A rule that knows the runs so far. -/
  | rule (answer : List Invocation → Invocation → Except String HelperOutput)

/-- The helper, with the runs so far, the oldest first. -/
structure Helper where
  source : HelperSource
  log : List Invocation

namespace Helper

/-- Prepares one more answer; a rule is left as it is. -/
def prepare (helper : Helper) (output : HelperOutput) : Helper :=
  match helper.source with
  | .queue outputs => { helper with source := .queue (outputs ++ [output]) }
  | .rule _ => helper

/-- Runs the helper. -/
def run (helper : Helper) (invocation : Invocation) : Helper × Except HelperError HelperOutput :=
  let log := helper.log ++ [invocation]
  match helper.source with
  | .queue [] =>
    ({ helper with log },
      .error (.spawn invocation.program "no scripted response available"))
  | .queue (output :: rest) => ({ source := .queue rest, log }, .ok output)
  | .rule answer =>
    ({ helper with log }, (answer helper.log invocation).mapError (.spawn invocation.program))

/-- Runs the helper and demands success. -/
def runChecked (helper : Helper) (invocation : Invocation) (resource : String) :
    Helper × Except HelperError HelperOutput :=
  match helper.run invocation with
  | (helper, .ok output) =>
    if output.isSuccess then (helper, .ok output)
    else
      (helper, .error (.failure invocation.program output.code
        (resource ++ ": " ++ Text.trim output.stderr)))
  | (helper, .error error) => (helper, .error error)

end Helper
end VpnFleet
