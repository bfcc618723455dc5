import VpnFleet.Cli.Run
import VpnFleet.Proofs.Helper.Conversation

/-!
# Errands

Two requests of the command line are for one server: a termination and the
opening of a tunnel. Both load everything first, look the server up in what
they loaded, and then ask for one thing.

* `Errand.course` says which calls an errand makes and whether it succeeds, as
  a function of what the helper replies: only a failure to list the regions, a
  server that is nowhere listed, and a failure of the call itself end it.
* `RunResult.Took` says that a run made the calls of a course and no others, and
  showed by its exit code whether the course succeeds.
-/

namespace VpnFleet
namespace Cli

open Transport (asked after reply repliesFrom)

/-- A request that is for one server. -/
inductive Errand where
  | termination
  | opening

/-- The calls of a run, and whether it succeeds. -/
structure Course where
  calls : List Call
  succeeded : Bool
deriving DecidableEq

/-- The server that the listing of a region holds under the identifier. -/
def listed? (defaultName id : String) : String × Listing → Option Instance
  | (region, .ok records) =>
    (records.find? fun record => record.id = id).map fun record =>
      Instance.ofRecord record region defaultName
  | (_, .error _) => none

/-- The calls that load the regions, the servers and the status. -/
def loading (records : List RegionRecord) : List Call :=
  .listRegions :: (Catalog.codesOf records).map Call.listInstances ++ [.status]

namespace Errand

/-- The errand as a request. -/
def request (id : String) : Errand → Request
  | termination => .terminate id
  | opening => .connect id

/-- What the errand asks for. -/
def call (id region : String) : Errand → Call
  | termination => .terminate id region
  | opening => .connect id region

/-- A tunnel needs a server that can be its end. -/
def admits (server : Instance) : Errand → Bool
  | termination => true
  | opening => server.ensureConnectable.isOk

/-- The last piece of work of the errand, when everything is loaded. -/
def finish (id : String) (desk : Desk) : Errand → Work String
  | termination =>
    Work.shown (desk.perform (.terminate id)) fun _ _ => line ("terminated " ++ id)
  | opening => Work.shown (desk.perform (.connect id)) Desk.sessionScreen

theorem carryOut_request (settings : Settings) (desk : Desk) (errand : Errand) (id : String) :
    (errand.request id).carryOut settings desk
      = Work.andThen (desk.perform .bootstrap) fun desk _ => errand.finish id desk := by
  cases errand <;> rfl

section Course

variable (settings : Settings) (rule : HelperRule)

/-- The server that the errand is for: the one that the first region lists, in the order of the
catalog, if the errand admits it. -/
def target? (errand : Errand) (records : List RegionRecord) (id : String) : Option Instance :=
  ((repliesFrom settings rule [asked settings .listRegions] (Catalog.codesOf records)).findSome?
    (listed? settings.displayName id)).filter fun server => errand.admits server

/-- What an errand does when everything is loaded: without a server nothing, and otherwise its call,
and for a tunnel that was opened a look at the status. -/
def toTarget (errand : Errand) (loaded : List Call) (id : String) : Option Instance → Course
  | none => { calls := loaded, succeeded := false }
  | some server =>
    let call := errand.call id server.region
    let issued := loaded ++ [call]
    let granted := (reply settings rule (loaded.map (asked settings)) call).isOk
    match errand with
    | termination => { calls := issued, succeeded := granted }
    | opening =>
      if granted then
        { calls := issued ++ [.status]
          succeeded := (reply settings rule (issued.map (asked settings)) .status).isOk }
      else { calls := issued, succeeded := false }

/-- The course of an errand. -/
def course (errand : Errand) (id : String) : Course :=
  match reply settings rule [] .listRegions with
  | .error _ => { calls := [.listRegions], succeeded := false }
  | .ok records =>
    errand.toTarget settings rule (loading records) id (errand.target? settings rule records id)

end Course
end Errand

/-- The run took this course: a failure is shown by the exit code, and nothing is written to the
output then. -/
structure RunResult.Took (settings : Settings) (result : RunResult) (course : Course) : Prop where
  log : result.log = course.calls.map (asked settings)
  code : result.code = if course.succeeded then 0 else 1
  silent : course.succeeded = false → result.stdout = ""

/-- The desk when some calls were made. -/
def deskAfter (settings : Settings) (rule : HelperRule) (client : Client) (made : List Call) :
    Desk where
  client := client
  transport := after settings rule (made.map (asked settings))

theorem RunResult.took_of_error
    {settings : Settings} {rule : HelperRule} {client : Client} {made : List Call}
    {work : Work String} {error : ClientError}
    (h : work = (deskAfter settings rule client made, .error error)) :
    (RunResult.ofWork work).Took settings { calls := made, succeeded := false } := by
  subst h
  exact ⟨rfl, rfl, fun _ => rfl⟩

/-- What the last piece of work came to is what the run shows. -/
theorem RunResult.took_of_shown
    {settings : Settings} {rule : HelperRule} {client : Client} {made : List Call}
    {α : Type} {work : Work α} {value : Except ClientError α} {screen : Desk → α → String}
    {succeeded : Bool}
    (h : work = (deskAfter settings rule client made, value)) (hvalue : value.isOk = succeeded) :
    (RunResult.ofWork (work.shown screen)).Took settings { calls := made, succeeded } := by
  subst h hvalue
  cases value with
  | ok value => exact ⟨rfl, rfl, nofun⟩
  | error error => exact ⟨rfl, rfl, fun _ => rfl⟩

theorem Desk.perform_eq {yield : Yield} {desk : Desk} {command : Command yield}
    {client : Client} {transport : Transport} {value : yield.Value}
    (h : command.run Transport.respond desk.client desk.transport = (client, transport, value)) :
    desk.perform command = ({ client, transport }, value) := by
  unfold perform
  rw [show (fun call transport => Transport.answer transport call) = Transport.respond from rfl, h]

/-- Among servers that were just listed, the first region that lists an identifier decides. -/
theorem lookup?_of_listings {inventory : Inventory} {defaultName : String}
    {listings : List (String × Listing)}
    (hentries : inventory.value.entries
      = Inventory.refreshed (RefreshReport.ofListings defaultName listings) [])
    (id : String) :
    inventory.lookup? id = (listings.findSome? (listed? defaultName id)).map .confirmed := by
  have hlisted (listing : String × Listing) :
      ((RefreshReport.instancesOf defaultName listing).find? fun server => server.id = id)
        = listed? defaultName id listing := by
    obtain ⟨region, listing⟩ := listing
    cases listing with
    | ok records => exact List.find?_map
    | error message => rfl
  unfold Inventory.lookup?
  rw [hentries]
  unfold Inventory.refreshed RefreshReport.ofListings
  rw [List.filter_nil, List.append_nil, List.find?_map]
  show ((firstOf Instance.id _).find? fun server => server.id = id).map _ = _
  rw [find?_firstOf, List.find?_flatMap]
  simp only [hlisted]

section Runs

variable {settings : Settings} {rule : HelperRule}

/-- A call leads to the desk where one more call was made. -/
theorem respond_deskAfter (made : List Call) (call : Call) (hfeed : call.isForFeed = false) :
    Transport.respond call (after settings rule (made.map (asked settings)))
      = (after settings rule ((made ++ [call]).map (asked settings)),
        reply settings rule (made.map (asked settings)) call) := by
  rw [Transport.respond_after settings rule _ call hfeed, List.map_append]
  rfl

/-- Without the regions the loading is over. -/
theorem bootstrap_of_refused {message : String}
    (hrefused : reply settings rule [] .listRegions = .error message) (salt : Nat) :
    ∃ client error,
      (Desk.new settings salt (.rule rule)).perform .bootstrap
        = (deskAfter settings rule client [.listRegions], .error error) := by
  have hasked := Transport.respond_after settings rule [] .listRegions rfl
  rw [hrefused] at hasked
  obtain ⟨client, hrun⟩ := Client.run_bootstrap_of_refused hasked
  exact ⟨client, _, Desk.perform_eq hrun⟩

/-- Once there are regions everything is asked for, and the servers are found under the region that
lists them first. -/
theorem bootstrap_of_listed {records : List RegionRecord}
    (hlisted : reply settings rule [] .listRegions = .ok records) (salt : Nat) :
    ∃ client report,
      (Desk.new settings salt (.rule rule)).perform .bootstrap
          = (deskAfter settings rule client (loading records), .ok report)
        ∧ (∀ id, client.inventory.lookup? id
          = ((repliesFrom settings rule [asked settings .listRegions]
              (Catalog.codesOf records)).findSome?
                (listed? settings.displayName id)).map .confirmed)
        ∧ client.tracker.value.connecting = none := by
  have hasked := Transport.respond_after settings rule [] .listRegions rfl
  rw [hlisted] at hasked
  obtain ⟨client, report, hrun, hentries, hconnecting⟩ :=
    @Client.run_bootstrap_of_listed _ _ (Client.new settings salt) _ _ _ rfl hasked
  rw [List.nil_append, Transport.listings_after] at hrun hentries
  rw [Transport.respond_after settings rule _ .status rfl] at hrun
  have hmade : [asked settings .listRegions]
        ++ (Catalog.codesOf records).map (fun region => asked settings (.listInstances region))
        ++ [asked settings .status]
      = (loading records).map (asked settings) := by
    simp [loading, Function.comp_def]
  rw [hmade] at hrun
  exact ⟨client, report, Desk.perform_eq hrun, lookup?_of_listings hentries, hconnecting⟩

section Desks

variable {client : Client} {loaded : List Call} {id : String} {found : Option Instance}

/-- A termination goes to the server that was found. -/
theorem finish_termination_took (hfound : client.inventory.lookup? id = found.map .confirmed) :
    (RunResult.ofWork (Errand.termination.finish id (deskAfter settings rule client loaded))).Took
      settings (Errand.termination.toTarget settings rule loaded id
        (found.filter fun server => Errand.termination.admits server)) := by
  let made := after settings rule (loaded.map (asked settings))
  cases found with
  | none =>
    obtain ⟨failed, error, hrun⟩ :=
      Client.run_terminate_of_absent Transport.respond made hfound
    have hwork : (deskAfter settings rule client loaded).perform (.terminate id)
        = (deskAfter settings rule failed loaded, .error error) := Desk.perform_eq hrun
    exact RunResult.took_of_shown hwork rfl
  | some server =>
    obtain ⟨last, value, hrun, hvalue⟩ :=
      Client.run_terminate_of_confirmed Transport.respond made hfound
    rw [respond_deskAfter loaded (.terminate id server.region) rfl] at hrun hvalue
    have hwork : (deskAfter settings rule client loaded).perform (.terminate id)
        = (deskAfter settings rule last (loaded ++ [.terminate id server.region]), value) :=
      Desk.perform_eq hrun
    exact RunResult.took_of_shown hwork hvalue

/-- An opening goes to the server that was found if it can be the end of a tunnel. -/
theorem finish_opening_took
    (hfound : client.inventory.lookup? id = found.map .confirmed)
    (hfree : client.tracker.value.connecting = none) :
    (RunResult.ofWork (Errand.opening.finish id (deskAfter settings rule client loaded))).Took
      settings (Errand.opening.toTarget settings rule loaded id
        (found.filter fun server => Errand.opening.admits server)) := by
  let made := after settings rule (loaded.map (asked settings))
  cases found with
  | none =>
    obtain ⟨failed, error, hrun⟩ := Client.run_connect_of_absent Transport.respond made hfound
    have hwork : (deskAfter settings rule client loaded).perform (.connect id)
        = (deskAfter settings rule failed loaded, .error error) := Desk.perform_eq hrun
    exact RunResult.took_of_shown hwork rfl
  | some server =>
    cases hready : server.ensureConnectable with
    | error reason =>
      obtain ⟨failed, error, hrun⟩ :=
        Client.run_connect_of_unfit Transport.respond made hfound hready
      have hwork : (deskAfter settings rule client loaded).perform (.connect id)
          = (deskAfter settings rule failed loaded, .error error) := Desk.perform_eq hrun
      have hrefused : (some server).filter (fun server => Errand.opening.admits server) = none := by
        simp [Errand.admits, hready, Except.isOk, Except.toBool]
      rw [hrefused]
      exact RunResult.took_of_shown hwork rfl
    | ok ready =>
      obtain ⟨last, value, hrun, hvalue⟩ :=
        Client.run_connect_of_confirmed Transport.respond made hfound hready hfree
      have hadmitted :
          (some server).filter (fun server => Errand.opening.admits server) = some server := by
        simp [Errand.admits, hready, Except.isOk, Except.toBool]
      rw [respond_deskAfter loaded (.connect id server.region) rfl] at hrun hvalue
      dsimp only at hrun hvalue
      rw [respond_deskAfter (loaded ++ [Call.connect id server.region]) .status rfl] at hrun hvalue
      rw [hadmitted]
      unfold Errand.toTarget
      dsimp only [Errand.call]
      cases hgranted :
          (reply settings rule (loaded.map (asked settings)) (.connect id server.region)).isOk with
      | false =>
        rw [hgranted] at hrun hvalue
        have hwork : (deskAfter settings rule client loaded).perform (.connect id)
            = (deskAfter settings rule last (loaded ++ [.connect id server.region]), value) :=
          Desk.perform_eq hrun
        exact RunResult.took_of_shown hwork hvalue
      | true =>
        rw [hgranted] at hrun hvalue
        have hwork : (deskAfter settings rule client loaded).perform (.connect id)
            = (deskAfter settings rule last (loaded ++ [.connect id server.region] ++ [.status]),
              value) :=
          Desk.perform_eq hrun
        exact RunResult.took_of_shown hwork hvalue

end Desks

/-- A helper with three regions. The first cannot be listed, the others list the same server, and
the status cannot be queried. -/
def partialHelper : HelperRule := fun _ invocation =>
  let listing := "[\x7b\"id\":\"i-1\",\"state\":\"running\"\x7d]"
  let regions := "[\x7b\"name\":\"eu-1\",\"country\":\"A\"\x7d,"
    ++ "\x7b\"name\":\"eu-2\",\"country\":\"A\"\x7d,"
    ++ "\x7b\"name\":\"us-1\",\"country\":\"B\"\x7d]"
  match invocation.args with
  | "regions" :: _ => .ok { code := some 0, stdout := regions, stderr := "" }
  | "instances" :: "list" :: "--region" :: "eu-1" :: _ => .error "refused"
  | "instances" :: "list" :: _ => .ok { code := some 0, stdout := listing, stderr := "" }
  | "vpn" :: "status" :: _ => .ok { code := some 2, stdout := "", stderr := "down" }
  | _ => .ok { code := some 0, stdout := "", stderr := "" }

end Runs

end Cli
end VpnFleet
