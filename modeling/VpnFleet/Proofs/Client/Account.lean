import VpnFleet.Client.Operation
import VpnFleet.Proofs.Inventory.Listings
import VpnFleet.Proofs.Notice

/-!
# The account of a command

What a command asks for, what it is told and what it posts is written down as
it goes on.

* An `Account` holds the calls, the answers and the posts of one command, and
  the regions that its refresh lists. `Account.take` writes a turn down.
* `Account.Lists` says how far the listings of a refresh are. The regions that
  the report names as failed are those whose listings were heard to fail, in
  the order of the catalog (`Account.Lists.failedRegions_eq`).
-/

namespace VpnFleet

namespace NoticeBoard

/-- What was posted on a board that nothing was taken from. -/
def postedSince (earlier board : NoticeBoard) : List Post :=
  (board.active.drop earlier.active.length).map Notice.toPost

@[simp]
theorem postedSince_self (board : NoticeBoard) : board.postedSince board = [] := by
  simp [postedSince]

@[simp]
theorem postedSince_post (board : NoticeBoard) (severity : Severity) (kind : NoticeKind)
    (message : String) :
    board.postedSince (board.post severity kind message) = [{ severity, kind, message }] := by
  simp [postedSince, post, active, Notice.toPost]

end NoticeBoard

namespace Client

variable (client : Client) (kind : NoticeKind)

@[simp]
theorem post_notices (severity : Severity) (message : String) :
    (client.post severity kind message).notices = client.notices.post severity kind message := rfl

@[simp]
theorem postError_notices (error : ClientError) :
    (client.postError kind error).notices = client.notices.post .error kind error.message := rfl

end Client

/-- A call with its answer. -/
structure Exchange where
  call : Call
  answer : call.Answer

namespace Exchange

/-- The region that could not be listed. -/
def failedRegion? : Exchange → Option String
  | ⟨.listInstances region, .error _⟩ => some region
  | _ => none

end Exchange

namespace Next

variable {yield : Yield}

/-- The call that an operation has made and waits for. -/
def call? : Next yield → Option Call
  | .waiting (.awaiting call _) => some call
  | _ => none

def sweeps : Next yield → Bool
  | .waiting (.sweeping _ _) => true
  | _ => false

end Next

namespace Slot

/-- The listing of the region came back as a failure. -/
def hasFailed (slot : Slot) : Bool :=
  match slot.state with
  | .answered (.error _) => true
  | _ => false

theorem hasFailed_of_isAsked {slot : Slot} (asked : slot.isAsked = true) :
    slot.hasFailed = false := by
  rcases slot with ⟨region, state⟩
  cases state with
  | asked => rfl
  | _ => cases asked

end Slot

theorem Sweep.failedRegions_report (sweep : Sweep) (defaultName : String) :
    (sweep.report defaultName).failedRegions
      = (sweep.slots.filter Slot.hasFailed).map Slot.region := by
  unfold report RefreshReport.failedRegions RefreshReport.ofListings listings
  dsimp only
  induction sweep.slots with
  | nil => rfl
  | cons slot slots ih =>
    rcases slot with ⟨region, state⟩
    cases state with
    | answered listing =>
      cases listing with
      | ok records => exact ih
      | error message => exact congrArg (region :: ·) ih
    | _ => exact ih

/-- What a command has done so far. -/
structure Account where
  /-- The calls that it made, in order. -/
  asked : List Call
  /-- The answers that it got, in the order in which they came. -/
  heard : List Exchange
  posted : List Post
  /-- The regions of its refresh, in the order of the catalog. -/
  codes : List String

namespace Account

variable {yield : Yield}

def empty : Account where
  asked := []
  heard := []
  posted := []
  codes := []

def hear (account : Account) (exchange : Exchange) : Account :=
  { account with heard := account.heard ++ [exchange] }

/-- The account after a turn; a refresh takes the regions that the catalog holds then. -/
def take (account : Account) (client : Client) (turn : Turn yield) : Account where
  asked := account.asked ++ turn.next.call?.toList
  heard := account.heard
  posted := account.posted ++ client.notices.postedSince turn.client.notices
  codes := if turn.next.sweeps then turn.client.catalog.codes else account.codes

/-- The account of a command that goes on where another one has come to. -/
def behind (first account : Account) : Account where
  asked := first.asked ++ account.asked
  heard := first.heard ++ account.heard
  posted := first.posted ++ account.posted
  codes := account.codes

/-- The account of an update of the credentials that waits for its answer. -/
def asking (credentials : Credentials) : Account :=
  { empty with asked := [.saveCredentials credentials] }

/-- The account of an update of the credentials that the backend has accepted. -/
def accepted (credentials : Credentials) : Account where
  asked := [.saveCredentials credentials]
  heard := [⟨.saveCredentials credentials, .ok ()⟩]
  posted := [{
    severity := .info
    kind := .credentials
    message := "Saved " ++ credentials.provider ++ " credentials" }]
  codes := []

/-- The account of an update of the credentials that the backend has refused. -/
def refused (credentials : Credentials) (message : String) : Account where
  asked := [.saveCredentials credentials]
  heard := [⟨.saveCredentials credentials, .error message⟩]
  posted := [{
    severity := .error
    kind := .credentials
    message := (ClientError.credentials message).message }]
  codes := []

theorem take_behind (first account : Account) (client : Client) (turn : Turn yield) :
    (first.behind account).take client turn = first.behind (account.take client turn) := by
  simp [take, behind, List.append_assoc]

theorem hear_behind (first account : Account) (exchange : Exchange) :
    (first.behind account).hear exchange = first.behind (account.hear exchange) := by
  simp [hear, behind, List.append_assoc]

/-- The regions whose listings failed, in the order in which that was heard. -/
def failing (account : Account) : List String :=
  account.heard.filterMap Exchange.failedRegion?

theorem failing_hear (account : Account) (exchange : Exchange) :
    (account.hear exchange).failing = account.failing ++ exchange.failedRegion?.toList := by
  unfold failing hear
  rw [List.filterMap_append]
  cases hfailed : exchange.failedRegion? <;> simp [hfailed]

/-- The listings of the regions: those asked for are in the slots that were begun. -/
structure Lists (account : Account) (sweep : Sweep) (begun : List Slot) (rest : List String) :
    Prop where
  split : sweep.Split begun rest
  window : 0 < sweep.window
  codes : begun.map Slot.region ++ rest = account.codes
  failing : ∀ region,
    region ∈ account.failing ↔ ∃ slot ∈ begun, slot.region = region ∧ slot.hasFailed = true

section Lists

variable {account : Account} {sweep : Sweep} {begun : List Slot} {rest : List String}

theorem lists_ofRegions (unheard : account.failing = []) (maxListings : Nat) :
    account.Lists (Sweep.ofRegions maxListings account.codes) [] account.codes where
  split := Sweep.split_ofRegions _ _
  window := by
    unfold Sweep.ofRegions
    dsimp only
    split <;> omega
  codes := rfl
  failing := by simp [unheard]

/-- The region that is asked for is the first one of the rest. -/
theorem Lists.ask (h : account.Lists sweep begun rest) {slot : Nat} {region : String}
    (next : sweep.next? = some (slot, region)) (asked : List Call) :
    ∃ later, rest = region :: later
      ∧ Lists { account with asked } (sweep.ask slot)
        (begun ++ [{ region, state := .asked }]) later := by
  obtain ⟨-, rfl, hhead⟩ := h.split.next?_eq_some_iff.1 next
  obtain ⟨later, rfl⟩ := List.head?_eq_some_iff.1 hhead
  refine ⟨later, rfl, h.split.ask, h.window, ?_, ?_⟩
  · simpa using h.codes
  · intro other
    refine (h.failing other).trans ?_
    simp [Slot.hasFailed]

theorem Lists.answer (h : account.Lists sweep begun rest) {i : Nat} {slot : Slot}
    (found : sweep.slots[i]? = some slot) (asked : slot.isAsked = true) (listing : Listing) :
    (account.hear ⟨.listInstances slot.region, listing⟩).Lists (sweep.answer i listing)
      (begun.modify i fun old => { old with state := .answered listing }) rest := by
  have hbegun : begun[i]? = some slot := h.split.getElem?_begun found asked
  obtain ⟨hi, rfl⟩ := List.getElem?_eq_some_iff.1 hbegun
  refine ⟨h.split.answer hi listing, h.window, ?_, ?_⟩
  · have hregions := Keyed.map_modify_eq (f := Slot.region)
      (g := fun old => { old with state := .answered listing }) (fun _ => rfl) begun i
    rw [hregions]
    exact h.codes
  · intro region
    let answered : Slot := { begun[i] with state := .answered listing }
    have hheard : region ∈ (account.hear ⟨.listInstances begun[i].region, listing⟩).failing
        ↔ region ∈ account.failing ∨ answered.region = region ∧ answered.hasFailed = true := by
      rw [failing_hear]
      cases listing with
      | ok records => simp [Exchange.failedRegion?, answered, Slot.hasFailed]
      | error message => simp [Exchange.failedRegion?, answered, Slot.hasFailed, eq_comm]
    have hopen : begun[i].hasFailed = false := Slot.hasFailed_of_isAsked asked
    have hedited (front back : List Slot) :
        (∃ slot ∈ front ++ begun[i] :: back, slot.region = region ∧ slot.hasFailed = true)
            ∨ answered.region = region ∧ answered.hasFailed = true
          ↔ ∃ slot ∈ front ++ answered :: back,
            slot.region = region ∧ slot.hasFailed = true := by
      simp only [List.mem_append, List.mem_cons, or_and_right, exists_or, exists_eq_left, hopen,
        Bool.false_eq_true, and_false, false_or, or_assoc]
      exact or_congr_right or_comm
    have hparts : begun.take i ++ begun[i] :: begun.drop (i + 1) = begun := by simp
    rw [hheard, h.failing, List.modify_eq_take_cons_drop hi, ← hedited, hparts]

/-- The report names the regions that were heard to fail, in the order of the catalog. -/
theorem Lists.failedRegions_eq (h : account.Lists sweep begun rest)
    (done : sweep.isDone = true) (distinct : account.codes.Nodup) (defaultName : String) :
    (sweep.report defaultName).failedRegions
      = account.codes.filter fun region => region ∈ account.failing := by
  obtain ⟨rfl, -⟩ := h.split.isDone_iff.1 done
  have hslots : sweep.slots = begun := by
    simpa using h.split.slots
  have hcodes : account.codes = begun.map Slot.region := by
    simpa using h.codes.symm
  have hone : ∀ slot ∈ begun,
      slot.hasFailed = ((fun region => decide (region ∈ account.failing)) ∘ Slot.region) slot := by
    intro slot hslot
    rw [hcodes] at distinct
    have hfailing : slot.region ∈ account.failing ↔ slot.hasFailed = true := by
      rw [h.failing]
      constructor
      · rintro ⟨other, hother, hregion, hfailed⟩
        rwa [← List.inj_on_of_nodup_map distinct hother hslot hregion]
      · intro hfailed
        exact ⟨slot, hslot, rfl, hfailed⟩
    simp [hfailing]
  rw [Sweep.failedRegions_report, hslots, hcodes, List.filter_map, List.filter_congr hone]

/-- While the listings are not all in, one can be asked for or is under way. -/
theorem Lists.goesOn (h : account.Lists sweep begun rest) :
    sweep.isDone = true
      ∨ (∃ slot region, sweep.next? = some (slot, region))
      ∨ ∃ (i : Nat) (slot : Slot), sweep.slots[i]? = some slot ∧ slot.isAsked = true := by
  rcases Nat.eq_zero_or_pos sweep.outstanding with hidle | hbusy
  · rcases h.split.isDone_or_next?_of_outstanding_eq_zero h.window hidle with hdone | hnext
    · exact Or.inl hdone
    · obtain ⟨⟨slot, region⟩, hnext⟩ := Option.isSome_iff_exists.1 hnext
      exact Or.inr (Or.inl ⟨slot, region, hnext⟩)
  · obtain ⟨slot, hslot, hasked⟩ := List.countP_pos_iff.1 hbusy
    obtain ⟨i, hi⟩ := List.mem_iff_getElem?.1 hslot
    exact Or.inr (Or.inr ⟨i, slot, hi, hasked⟩)

end Lists
end Account
end VpnFleet
