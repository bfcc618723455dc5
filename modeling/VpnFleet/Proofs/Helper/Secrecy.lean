import VpnFleet.Cli.Relay
import VpnFleet.Proofs.Helper.Conversation

/-!
# Where the secret goes

Saving credentials is the only call with a text on standard input, and the only
one that knows the secret. A helper whose answers do not depend on these texts
cannot tell two secrets apart; nor can anything that comes after the call, the
loading of all parts of the client included.

* `Helper.Alike` relates helpers that differ in the texts on standard input of
  past runs. Runs that differ in these texts come to the same and keep the
  helpers alike.
* `Helper.Twins` says that the helpers differ in an older part of the past only.
  Everything that is asked of a transport keeps its helper in step with its twin.
* The main result compares the commands that save two secrets for the same key.
-/

namespace VpnFleet

namespace Invocation

/-- What others see of a run: not the text on its standard input. -/
def visible (invocation : Invocation) : Invocation :=
  { invocation with stdin := none }

theorem program_eq_of_visible {first second : Invocation} (h : first.visible = second.visible) :
    first.program = second.program := by
  show first.visible.program = second.visible.program
  rw [h]

end Invocation

/-- No answer depends on a text on standard input. -/
def HelperSource.IgnoresStdin : HelperSource → Prop
  | .queue _ => True
  | .rule answer =>
    ∀ past other first second,
      past.map Invocation.visible = other.map Invocation.visible →
        first.visible = second.visible → answer past first = answer other second

/-- Answers that come in a given order, whatever is asked. -/
theorem Cli.knownAnswers_ignoresStdin (answers : List RelayAnswer) :
    HelperSource.IgnoresStdin (.rule (knownAnswers answers)) := by
  intro past other first second hpast hrun
  have hlength : past.length = other.length := by
    simpa using congrArg List.length hpast
  unfold knownAnswers
  rw [hlength]

namespace Helper

/-- The helpers differ in the texts on standard input of past runs at most. -/
structure Alike (first second : Helper) : Prop where
  source : first.source = second.source
  ignores : first.source.IgnoresStdin
  log : first.log.map Invocation.visible = second.log.map Invocation.visible

section Alike

variable {first second : Helper}

theorem Alike.refl {helper : Helper} (hsource : helper.source.IgnoresStdin) :
    helper.Alike helper :=
  ⟨rfl, hsource, rfl⟩

theorem Alike.run
    (h : first.Alike second) {invocation other : Invocation}
    (hvisible : invocation.visible = other.visible) :
    AgreeUpTo Alike (first.run invocation) (second.run other) := by
  obtain ⟨source, past⟩ := first
  obtain ⟨twin, otherPast⟩ := second
  obtain rfl : source = twin := h.source
  have hprogram : invocation.program = other.program := Invocation.program_eq_of_visible hvisible
  have hlog : (past ++ [invocation]).map Invocation.visible
      = (otherPast ++ [other]).map Invocation.visible := by
    rw [List.map_append, List.map_append, h.log]
    exact congrArg (fun run => otherPast.map Invocation.visible ++ [run]) hvisible
  cases source with
  | queue outputs =>
    cases outputs with
    | nil => exact ⟨by simp only [Helper.run, hprogram], rfl, trivial, hlog⟩
    | cons output rest => exact ⟨rfl, rfl, trivial, hlog⟩
  | rule answer =>
    have hanswer : answer past invocation = answer otherPast other :=
      h.ignores past otherPast invocation other h.log hvisible
    exact ⟨by simp only [Helper.run, hanswer, hprogram], rfl, h.ignores, hlog⟩

theorem Alike.runChecked
    (h : first.Alike second) {invocation other : Invocation}
    (hvisible : invocation.visible = other.visible) (resource : String) :
    AgreeUpTo Alike (first.runChecked invocation resource) (second.runChecked other resource) := by
  obtain ⟨hsame, hlater⟩ := h.run hvisible
  have hprogram : invocation.program = other.program := Invocation.program_eq_of_visible hvisible
  rw [runChecked_eq, runChecked_eq, hsame, hprogram]
  exact ⟨rfl, hlater⟩

theorem Alike.execute
    (h : first.Alike second) (program : String) {call other : Call}
    (hvisible : (invocation program call).visible = (invocation program other).visible)
    (hresource : call.resource = other.resource) :
    AgreeUpTo Alike (first.execute program call) (second.execute program other) := by
  obtain ⟨hsame, hlater⟩ := h.runChecked hvisible call.resource
  rw [execute_eq, execute_eq, ← hresource, hsame]
  exact ⟨rfl, hlater⟩

theorem Alike.query
    {α : Type} (h : first.Alike second) (program : String) (call : Call) (form : Json.Form)
    (decode? : Json → Option α) :
    AgreeUpTo Alike (first.query program call form decode?)
      (second.query program call form decode?) := by
  obtain ⟨hsame, hlater⟩ := h.runChecked (rfl : (invocation program call).visible = _) call.resource
  rw [query_eq, query_eq, hsame]
  exact ⟨rfl, hlater⟩

end Alike

/-- Helpers that are alike, with the same runs after an older part of the past. -/
structure Twins (past other : List Invocation) (first second : Helper) : Prop where
  alike : first.Alike second
  later : ∃ runs, first.log = past ++ runs ∧ second.log = other ++ runs

section Twins

variable {past other : List Invocation} {first second : Helper}

/-- Twins are still twins after one more run of both. -/
theorem Twins.ran
    (h : Twins past other first second) {later laterToo : Helper} {invocation : Invocation}
    (halike : later.Alike laterToo)
    (hlater : later = (first.run invocation).1)
    (hlaterToo : laterToo = (second.run invocation).1) :
    Twins past other later laterToo := by
  obtain ⟨runs, hfirst, hsecond⟩ := h.later
  refine ⟨halike, runs ++ [invocation], ?_, ?_⟩
  · rw [hlater, run_log, hfirst, List.append_assoc]
  · rw [hlaterToo, run_log, hsecond, List.append_assoc]

variable (h : Twins past other first second) (program : String) (call : Call)

include h

theorem Twins.execute :
    AgreeUpTo (Twins past other) (first.execute program call) (second.execute program call) := by
  have hvisible : (invocation program call).visible = (invocation program call).visible := rfl
  obtain ⟨hsame, halike⟩ := h.alike.execute program hvisible rfl
  exact ⟨hsame, h.ran halike (execute_helper first program call)
    (execute_helper second program call)⟩

theorem Twins.query {α : Type} (form : Json.Form) (decode? : Json → Option α) :
    AgreeUpTo (Twins past other) (first.query program call form decode?)
      (second.query program call form decode?) := by
  obtain ⟨hsame, halike⟩ := h.alike.query program call form decode?
  exact ⟨hsame, h.ran halike (query_helper first program call form decode?)
    (query_helper second program call form decode?)⟩

theorem Twins.sample :
    AgreeUpTo (Twins past other) (first.sample program) (second.sample program) :=
  h.query program .subscribe (.record TrafficRecord.form) TrafficRecord.ofJson?

end Twins

end Helper

namespace Transport

/-- Transports that differ in twin helpers only. -/
def Twins (past other : List Invocation) (first second : Transport) : Prop :=
  ∃ helper, second = { first with helper } ∧ Helper.Twins past other first.helper helper

section Twins

variable {past other : List Invocation} {first second : Transport}

/-- A question to twin helpers has one answer and leads to twin transports. -/
theorem Twins.withHelper
    {α : Type} {transport : Transport} {ran ranToo : Helper × Except HelperError α}
    {helper : Helper}
    (hran : AgreeUpTo (Helper.Twins past other) ran ranToo) :
    AgreeUpTo (Twins past other) (transport.withHelper ran)
      ({ transport with helper }.withHelper ranToo) :=
  ⟨hran.same, ranToo.1, rfl, hran.related⟩

theorem Twins.subscribe (h : Twins past other first second) :
    AgreeUpTo (Twins past other) first.subscribe second.subscribe := by
  obtain ⟨helper, rfl, hhelper⟩ := h
  have hsampled := hhelper.sample first.program
  unfold Transport.subscribe
  dsimp only
  generalize first.helper.sample first.program = ran at hsampled ⊢
  generalize helper.sample first.program = ranToo at hsampled ⊢
  obtain ⟨later, outcome⟩ := ran
  obtain ⟨laterToo, outcomeToo⟩ := ranToo
  obtain ⟨rfl, hlater⟩ := hsampled
  cases outcome with
  | error error => exact ⟨rfl, laterToo, rfl, hlater⟩
  | ok record => exact ⟨rfl, laterToo, rfl, hlater⟩

theorem Twins.unsubscribe (h : Twins past other first second) (feed : String) :
    Twins past other (first.unsubscribe feed) (second.unsubscribe feed) := by
  obtain ⟨helper, rfl, hhelper⟩ := h
  unfold Transport.unsubscribe
  dsimp only
  split <;> exact ⟨helper, rfl, hhelper⟩

theorem Twins.call (h : Twins past other first second) (call : Call) :
    AgreeUpTo (Twins past other) (first.call call) (second.call call) := by
  cases call with
  | subscribe => exact h.subscribe
  | unsubscribe feed => exact ⟨rfl, h.unsubscribe feed⟩
  | _ =>
    obtain ⟨helper, rfl, hhelper⟩ := h
    first
    | exact Twins.withHelper (hhelper.execute _ _)
    | exact Twins.withHelper (hhelper.query _ _ _ _)

theorem respond_respects : respond.Respects (Twins past other) := by
  intro call first second h
  obtain ⟨hsame, hlater⟩ := h.call call
  exact ⟨congrArg (Except.mapError HelperError.message) hsame, hlater⟩

end Twins

/-- A saving of credentials is one run of the helper, and no answer tells the secret. -/
theorem save_twins
    (transport : Transport) (hsource : transport.helper.source.IgnoresStdin)
    (credentials : Credentials) (secret : String) :
    let other : Credentials := { credentials with secretAccessKey := secret }
    let run (call : Call) := Helper.invocation transport.program call
    (transport.call (.saveCredentials credentials)).2
        = (transport.call (.saveCredentials other)).2
      ∧ Twins (transport.helper.log ++ [run (.saveCredentials credentials)])
        (transport.helper.log ++ [run (.saveCredentials other)])
        (transport.call (.saveCredentials credentials)).1
        (transport.call (.saveCredentials other)).1 := by
  intro other run
  have hvisible :
      (run (.saveCredentials credentials)).visible = (run (.saveCredentials other)).visible := by
    simp only [Invocation.visible, Helper.invocation, Call.args, run, other]
  have hresource :
      (Call.saveCredentials credentials).resource = (Call.saveCredentials other).resource := rfl
  obtain ⟨hsame, halike⟩ :=
    (Helper.Alike.refl hsource).execute transport.program hvisible hresource
  have hlog (call : Call) : (transport.helper.execute transport.program call).1.log
      = transport.helper.log ++ [run call] ++ [] := by
    rw [Helper.execute_helper, Helper.run_log, List.append_nil]
  unfold Transport.call
  exact ⟨hsame, (transport.helper.execute transport.program (.saveCredentials other)).1, rfl,
    halike, [], hlog (.saveCredentials credentials), hlog (.saveCredentials other)⟩

end Transport

namespace Client

/-- The secret reaches nothing but the standard input of the run that saves it: two secrets for one
key leave the same client behind and the same result, and the same runs before and after. -/
theorem secret_reaches_stdin_alone
    (client : Client) (transport : Transport)
    (hsource : transport.helper.source.IgnoresStdin)
    (credentials : Credentials) (secret : String) :
    let other : Credentials := { credentials with secretAccessKey := secret }
    let saved (credentials : Credentials) :=
      Command.run Transport.respond client transport (.saveCredentials credentials)
    let run (credentials : Credentials) : Invocation := {
      program := transport.program
      args := ["credentials", "save", "--provider", credentials.provider]
      stdin := some credentials.payload }
    credentials.shown = other.shown
      ∧ (saved credentials).1 = (saved other).1
      ∧ (saved credentials).2.2 = (saved other).2.2
      ∧ ∃ helper later,
        (saved other).2.1 = { (saved credentials).2.1 with helper }
          ∧ helper.source = (saved credentials).2.1.helper.source
          ∧ (saved credentials).2.1.helper.log
            = transport.helper.log ++ run credentials :: later
          ∧ helper.log = transport.helper.log ++ run other :: later := by
  intro other saved run
  obtain ⟨hsame, htwins⟩ := transport.save_twins hsource credentials secret
  -- the command waits for one answer, and what it does with it depends on the provider only
  let turn (answer : Except String Unit) := Resumption.settleSave client credentials answer
  let asked (credentials : Credentials) := transport.call (.saveCredentials credentials)
  let answer (credentials : Credentials) : Except String Unit :=
    (asked credentials).2.mapError HelperError.message
  have hanswer : answer credentials = answer other :=
    congrArg (Except.mapError HelperError.message) hsame
  have hfirst : saved credentials = (turn (answer credentials)).next.complete Transport.respond
      (turn (answer credentials)).client (asked credentials).1 :=
    Next.complete_awaiting Transport.respond client transport (.save credentials)
  have hsecond : saved other = (turn (answer credentials)).next.complete Transport.respond
      (turn (answer credentials)).client (asked other).1 := by
    rw [hanswer]
    exact Next.complete_awaiting Transport.respond client transport (.save other)
  obtain ⟨hclient, hvalue, helper, hrest, halike, later, hlog, hother⟩ :=
    Next.complete_respects Transport.respond_respects htwins (turn (answer credentials)).next
      (turn (answer credentials)).client
  rw [← hfirst, ← hsecond] at hclient hvalue
  rw [← hsecond, ← hfirst] at hrest
  rw [← hfirst] at halike hlog
  rw [List.append_assoc] at hlog hother
  exact ⟨rfl, hclient, hvalue, helper, later, hrest, halike.source.symm, hlog, hother⟩

/-- Answers to a saving that succeeds, to the loading of one region, to its listing, which cannot be
run, and to the status. -/
def savingAnswers : List Cli.RelayAnswer := [
  .ok { code := some 0, stdout := "", stderr := "" },
  .ok { code := some 0, stdout := "[\x7b\"name\":\"eu-1\",\"country\":\"A\"\x7d]", stderr := "" },
  .error "refused",
  .ok { code := some 2, stdout := "", stderr := "down" }]

/-- With two secrets for one key the helper is asked the same four times, and reads two texts. -/
theorem two_secrets_are_saved_alike :
    let source : HelperSource := .rule (Cli.knownAnswers savingAnswers)
    let client := Client.new Settings.default 0
    let transport := Transport.new Settings.default source
    let first : Credentials := ⟨"aws", "key", "secret"⟩
    let second : Credentials := { first with secretAccessKey := "other" }
    let saved (credentials : Credentials) :=
      Command.run Transport.respond client transport (.saveCredentials credentials)
    source.IgnoresStdin
      ∧ first.payload ≠ second.payload
      ∧ (saved first).1 = (saved second).1
      ∧ (saved first).2.2 = (saved second).2.2
      ∧ ((saved first).2.1.helper.log.map Invocation.argumentLine
        = ["credentials save --provider aws", "regions list -o json",
          "instances list --region eu-1 -o json", "vpn status -o json"])
      ∧ (saved second).2.1.helper.log.map Invocation.argumentLine
        = (saved first).2.1.helper.log.map Invocation.argumentLine := by
  intro source client transport first second saved
  have hsource : source.IgnoresStdin := Cli.knownAnswers_ignoresStdin savingAnswers
  obtain ⟨-, hclient, hvalue, helper, later, hrest, -, hlog, hother⟩ :=
    secret_reaches_stdin_alone client transport hsource first "other"
  refine ⟨hsource, ?_, hclient, hvalue, ?_, ?_⟩
  · decide +kernel
  · decide +kernel
  · change (saved second).2.1 = _ at hrest
    rw [hrest, hlog, hother]
    simp only [List.map_append, List.map_cons, Invocation.argumentLine]

end Client
end VpnFleet
