import VpnFleet.Cli.Run
import VpnFleet.Json.Text

/-!
# Runs with a relay

A run is a function of what the helper answers, and it asks one question after
the other. So a run can be carried out with the answers known so far: either it
comes to its result, or its next question is known, which a relay outside the
program takes to the helper.

**Wire form.** A question and an answer are one line of JSON each.
-/

namespace VpnFleet
namespace Cli

/-- What the relay brings back. -/
abbrev RelayAnswer := Except String HelperOutput

/-- How far a run comes with the answers known so far. -/
inductive RelayTurn where
  | finished (result : RunResult)
  | asks (invocation : Invocation)
deriving DecidableEq, Repr

/-- The known answers in the order of the runs of the helper. -/
def knownAnswers (answers : List RelayAnswer) (log : List Invocation) (_ : Invocation) :
    RelayAnswer :=
  (answers[log.length]?).getD (.error "no answer")

/-- Carries a request out as far as the answers reach. -/
def relayTurn
    (env : List (String × String))
    (file : Option String)
    (salt : Nat)
    (request : Request)
    (answers : List RelayAnswer) :
    RelayTurn :=
  let result := run env file salt (.rule (knownAnswers answers)) request
  match result.log[answers.length]? with
  | some invocation => .asks invocation
  | none => .finished result

/-- A question on the wire. -/
def writeQuestion (invocation : Invocation) : String :=
  let args := ",".intercalate (invocation.args.map Json.writeString)
  "\x7b\"program\":" ++ Json.writeString invocation.program
    ++ ",\"args\":[" ++ args ++ "],\"stdin\":"
    ++ (invocation.stdin.map Json.writeString).getD "null" ++ "\x7d"

/-- An exit code, or none when the helper died from a signal. -/
def readCode? : Json → Option (Option Int)
  | .null => some none
  | value => value.count?.map fun code => some (Int.ofNat code)

/-- An answer of the helper. -/
def readOutput? (value : Json) : Option HelperOutput := do
  let fields ← value.fields? ["code", "stdout", "stderr"]
  return {
    code := ← fields.required? "code" readCode?
    stdout := ← fields.required? "stdout" Json.text?
    stderr := ← fields.required? "stderr" Json.text? }

/-- Why the helper could not be run. -/
def readRefusal? (value : Json) : Option String := do
  let fields ← value.fields? ["error"]
  fields.required? "error" Json.text?

/-- An answer on the wire. -/
def readAnswer (text : String) : RelayAnswer :=
  match Json.ofText? text with
  | none => .error "unreadable answer"
  | some value =>
    match readOutput? value, readRefusal? value with
    | some output, _ => .ok output
    | none, some message => .error message
    | none, none => .error "unreadable answer"

end Cli
end VpnFleet
