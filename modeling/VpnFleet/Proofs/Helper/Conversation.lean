import VpnFleet.Helper.Transport
import VpnFleet.Proofs.Client.Direct

/-!
# Conversations with the helper

A helper that answers by a rule may look at all the runs before. What a call
comes to is then a function of the runs so far, and the runs so far are all
that a conversation has to remember.

* `Transport.after` is the transport after some runs, and `Transport.reply`
  what a call comes to then.
* `Transport.respond` is the transport as a backend that answers at once. Every
  call but those for a feed is one run of the helper, and leads from one such
  transport to the next.
-/

namespace VpnFleet

/-- How a helper answers that knows the runs so far. -/
abbrev HelperRule : Type :=
  List Invocation → Invocation → Except String HelperOutput

/-- The call belongs to a traffic feed. -/
def Call.isForFeed : Call → Bool
  | .subscribe => true
  | .unsubscribe _ => true
  | _ => false

/-- A call takes nothing but a successful output. -/
def HelperOutput.demand (program resource : String) (output : HelperOutput) :
    Except HelperError HelperOutput :=
  if output.isSuccess then .ok output
  else .error (.failure program output.code (resource ++ ": " ++ Text.trim output.stderr))

namespace Helper

section Runs

variable (helper : Helper)

/-- Every run is noted. -/
theorem run_log (invocation : Invocation) :
    (helper.run invocation).1.log = helper.log ++ [invocation] := by
  unfold run
  split <;> rfl

theorem runChecked_eq (invocation : Invocation) (resource : String) :
    helper.runChecked invocation resource
      = ((helper.run invocation).1,
        (helper.run invocation).2.bind (HelperOutput.demand invocation.program resource)) := by
  unfold runChecked
  split
  · next output houtcome =>
      rw [houtcome]
      show _ = (_, HelperOutput.demand invocation.program resource output)
      unfold HelperOutput.demand
      split <;> rfl
  · next houtcome =>
      rw [houtcome]
      rfl

section Calls

variable (program : String) (call : Call)

theorem execute_eq :
    helper.execute program call
      = ((helper.runChecked (invocation program call) call.resource).1,
        (helper.runChecked (invocation program call) call.resource).2.map fun _ => ()) := by
  unfold execute
  generalize helper.runChecked (invocation program call) call.resource = checked
  obtain ⟨later, error | output⟩ := checked <;> rfl

/-- A call is one run. -/
theorem execute_helper :
    (helper.execute program call).1 = (helper.run (invocation program call)).1 := by
  rw [execute_eq, runChecked_eq]

variable {α : Type} (form : Json.Form) (decode? : Json → Option α)

theorem query_eq :
    helper.query program call form decode?
      = ((helper.runChecked (invocation program call) call.resource).1,
        (helper.runChecked (invocation program call) call.resource).2.bind
          (decode call.resource form decode?)) := by
  unfold query
  generalize helper.runChecked (invocation program call) call.resource = checked
  obtain ⟨later, error | output⟩ := checked <;> rfl

theorem query_helper :
    (helper.query program call form decode?).1 = (helper.run (invocation program call)).1 := by
  rw [query_eq, runChecked_eq]

/-- A sample is one run. -/
theorem sample_log :
    (helper.sample program).1.log = helper.log ++ [invocation program .subscribe] := by
  unfold sample
  rw [query_helper, run_log]

end Calls

theorem prepare_log (output : HelperOutput) : (helper.prepare output).log = helper.log := by
  unfold prepare
  split <;> rfl

end Runs

/-- A rule outlasts every run. -/
theorem run_of_rule
    {helper : Helper} {rule : HelperRule} (hrule : helper.source = .rule rule)
    (invocation : Invocation) :
    (helper.run invocation).1 = { helper with log := helper.log ++ [invocation] } := by
  obtain ⟨source, log⟩ := helper
  obtain rfl : source = .rule rule := hrule
  rfl

end Helper

namespace Transport

/-- A call that belongs to no feed is one run of the helper, and nothing else changes. -/
theorem call_of_plain (transport : Transport) {call : Call} (plain : call.isForFeed = false) :
    (transport.call call).1
      = { transport with
          helper := (transport.helper.run (Helper.invocation transport.program call)).1 } := by
  have hrun {α : Type} {outcome : Helper × Except HelperError α}
      (h : outcome.1 = (transport.helper.run (Helper.invocation transport.program call)).1) :
      (transport.withHelper outcome).1
        = { transport with
            helper := (transport.helper.run (Helper.invocation transport.program call)).1 } := by
    rw [← h]
    rfl
  cases call with
  | subscribe => cases plain
  | unsubscribe feed => cases plain
  | listRegions => exact hrun (Helper.query_helper _ _ _ _ _)
  | listInstances region => exact hrun (Helper.query_helper _ _ _ _ _)
  | spawn region => exact hrun (Helper.query_helper _ _ _ _ _)
  | status => exact hrun (Helper.query_helper _ _ _ _ _)
  | terminate id region => exact hrun (Helper.execute_helper _ _ _)
  | connect id region => exact hrun (Helper.execute_helper _ _ _)
  | disconnect => exact hrun (Helper.execute_helper _ _ _)
  | saveCredentials credentials => exact hrun (Helper.execute_helper _ _ _)

/-- The helper answers every call at once. -/
def respond : Responder Transport :=
  fun call transport => transport.answer call

variable (settings : Settings) (rule : HelperRule)

/-- The run of the helper behind a call. -/
def asked (call : Call) : Invocation :=
  Helper.invocation settings.backendBin call

/-- A transport without feeds, after some runs of the helper. -/
def after (past : List Invocation) : Transport :=
  { new settings (.rule rule) with helper := { source := .rule rule, log := past } }

/-- What a call comes to after some runs of the helper. -/
def reply (past : List Invocation) (call : Call) : call.Answer :=
  ((after settings rule past).answer call).2

/-- A call is one run of the helper. -/
theorem respond_after (past : List Invocation) (call : Call) (hfeed : call.isForFeed = false) :
    respond call (after settings rule past)
      = (after settings rule (past ++ [asked settings call]), reply settings rule past call) := by
  refine Prod.ext ?_ rfl
  show ((after settings rule past).call call).1 = _
  rw [call_of_plain _ hfeed, Helper.run_of_rule rfl]
  rfl

/-- The listings of some regions, each with what it comes to after the ones before. -/
def repliesFrom : List Invocation → List String → List (String × Listing)
  | _, [] => []
  | past, region :: regions =>
    (region, reply settings rule past (.listInstances region))
      :: repliesFrom (past ++ [asked settings (.listInstances region)]) regions

theorem listings_after (past : List Invocation) (regions : List String) :
    respond.listings (after settings rule past) regions
      = (after settings rule
          (past ++ regions.map fun region => asked settings (.listInstances region)),
        repliesFrom settings rule past regions) := by
  induction regions generalizing past with
  | nil => simp [Responder.listings, repliesFrom]
  | cons region regions ih =>
    unfold Responder.listings repliesFrom
    rw [respond_after settings rule past (.listInstances region) rfl]
    dsimp only
    rw [ih]
    simp

end Transport
end VpnFleet
