import VpnFleet.Proofs.Client.Run

/-!
# The session and the inventory agree

A session is looked up in the inventory when it is reported, and the inventory
changes afterwards. The poller closes the gap: it looks the session up again
for every revision that it has not seen. Whenever the revision that it saw last
is the present one, the session agrees with the inventory, whatever else ran.

* A move of the client may break the agreement, but only with a new revision.
* The poller takes a new revision only in the step in which it looks the
  session up.
* `Watched` puts both together along a run.
-/

namespace VpnFleet

namespace Client

def revision (client : Client) : Nat :=
  client.inventory.value.revision

/-- The session agrees with the inventory. -/
def Agrees (client : Client) : Prop :=
  client.tracker.session.AgreesWith client.inventory.value

variable {client next : Client}

theorem reconcile_agrees (client : Client) : client.reconcile.Agrees :=
  VpnSession.reconciled_agrees client.inventory.value client.tracker.session

theorem Move.revision_le (move : client.Move next) : client.revision ≤ next.revision :=
  move.inventory.advances.revision_le

/-- An agreement lasts as long as the revision. -/
theorem Move.agrees
    (move : client.Move next)
    (hrevision : next.revision = client.revision)
    (hagrees : client.Agrees) :
    next.Agrees := by
  rcases move.tracker.session_cases with hsame | hlooked
  · unfold Agrees
    rw [hsame]
    have hentries := move.inventory.advances.entries_eq hrevision
    exact VpnSession.AgreesWith.of_entries_eq hagrees hentries
  · exact hlooked

end Client

namespace Poller

variable {client next : Client} {poller after : Poller}

theorem rest_stage_ne_fresh (poller : Poller) (client : Client) :
    (poller.rest client).stage ≠ .fresh := by
  unfold rest
  split <;> exact nofun

/-- A poller that has begun sees a new revision only where it looks the session up. -/
theorem Step.revisionSeen_cases
    (step : Step client poller next after) (hbegun : poller.stage ≠ .fresh) :
    after.stage ≠ .fresh
      ∧ (after.revisionSeen = poller.revisionSeen
        ∨ (after.revisionSeen = next.revision ∧ next.Agrees)) := by
  cases step with
  | settleIn fresh period => exact absurd fresh hbegun
  | stop resting due => exact ⟨rest_stage_ne_fresh _ client, Or.inl rfl⟩
  | tick resting => exact ⟨nofun, Or.inl rfl⟩
  | see resting due =>
    unfold onInventory
    dsimp only
    split
    · exact ⟨rest_stage_ne_fresh _ client, Or.inl rfl⟩
    · exact ⟨nofun, Or.inr ⟨rfl, client.reconcile_agrees⟩⟩
  | answer querying answer => exact ⟨rest_stage_ne_fresh _ _, Or.inl rfl⟩

end Poller

namespace ClientRun

variable {run next : ClientRun} {start : Nat}

/-- The poller of a start has begun, and the session agrees with the inventory while the revision
is the one that the poller saw. -/
def Watched (run : ClientRun) (start : Nat) : Prop :=
  start < run.loops.length
    ∧ ∀ poller, run.poller? start = some poller →
      poller.stage ≠ .fresh
        ∧ poller.revisionSeen ≤ run.client.revision
        ∧ (poller.revisionSeen = run.client.revision → run.client.Agrees)

theorem Watched.step (h : run.Watched start) (step : Step run next) : next.Watched start := by
  obtain ⟨hstarted, hwatched⟩ := h
  have hmove := step.move
  have hle := hmove.revision_le
  -- a revision that was seen before is the present one only if the step left it
  have hlasting {seen : Nat} (hbound : seen ≤ run.client.revision)
      (hagrees : seen = run.client.revision → run.client.Agrees) :
      seen = next.client.revision → next.client.Agrees := by
    intro hseen
    have hkept : next.client.revision = run.client.revision := by omega
    exact hmove.agrees hkept (hagrees (hseen.trans hkept))
  refine ⟨Nat.lt_of_lt_of_le hstarted step.loops_length_le, ?_⟩
  intro poller hpoller
  rcases step.poller_passes hstarted with hsame | hgone | ⟨before, after, hbefore, hstep, hafter⟩
  · rw [hsame] at hpoller
    obtain ⟨hbegun, hbound, hagrees⟩ := hwatched poller hpoller
    exact ⟨hbegun, Nat.le_trans hbound hle, hlasting hbound hagrees⟩
  · rw [hgone] at hpoller
    cases hpoller
  · obtain rfl : after = poller := by
      rw [hafter] at hpoller
      exact Option.some.inj hpoller
    obtain ⟨hbegun, hbound, hagrees⟩ := hwatched before hbefore
    obtain ⟨hbegunLater, hseen⟩ := hstep.revisionSeen_cases hbegun
    rcases hseen with hkept | ⟨htaken, hlooked⟩
    · rw [← hkept] at hbound hagrees
      exact ⟨hbegunLater, Nat.le_trans hbound hle, hlasting hbound hagrees⟩
    · exact ⟨hbegunLater, Nat.le_of_eq htaken, fun _ => hlooked⟩

theorem watched_of_settleIn
    {poller : Poller}
    (hpoller : run.poller? start = some (poller.settleIn run.client))
    (hagrees : run.client.Agrees) :
    run.Watched start := by
  refine ⟨?_, ?_⟩
  · by_contra hunstarted
    unfold poller? at hpoller
    rw [List.getElem?_eq_none (Nat.le_of_not_lt hunstarted)] at hpoller
    cases hpoller
  · intro other hother
    obtain rfl : poller.settleIn run.client = other := by
      rw [hother] at hpoller
      exact (Option.some.inj hpoller).symm
    exact ⟨Poller.rest_stage_ne_fresh _ _, Nat.le_refl _, fun _ => hagrees⟩

theorem Watched.path
    (h : run.Watched start) {later : ClientRun} (path : Relation.ReflTransGen Step run later) :
    later.Watched start := by
  induction path with
  | refl => exact h
  | tail _ step ih => exact ih.step step

/-- Once a poller has taken its first look while the session agreed with the inventory, the session
agrees with it whenever the poller has seen the present revision. -/
theorem session_agrees_at_seen_revision
    {started run : ClientRun} {start : Nat} {first poller : Poller}
    (hstarted : started.poller? start = some (first.settleIn started.client))
    (hagrees : started.client.tracker.session.AgreesWith started.client.inventory.value)
    (path : Relation.ReflTransGen Step started run)
    (hpoller : run.poller? start = some poller)
    (hseen : poller.revisionSeen = run.client.inventory.value.revision) :
    run.client.tracker.session.AgreesWith run.client.inventory.value := by
  obtain ⟨-, hwatched⟩ := (watched_of_settleIn hstarted hagrees).path path
  obtain ⟨-, -, hlasting⟩ := hwatched poller hpoller
  exact hlasting hseen

theorem marked_server_is_looked_up_again :
    ∃ (started run : ClientRun) (first poller : Poller),
      Reached Settings.default 0 started
        ∧ started.poller? 0 = some (first.settleIn started.client)
        ∧ started.client.tracker.session.AgreesWith started.client.inventory.value
        ∧ Relation.ReflTransGen Step started run
        ∧ run.poller? 0 = some poller
        ∧ poller.revisionSeen = run.client.inventory.value.revision
        ∧ run.client.tracker.session
          = .connected
            { id := "i-1", name := "vpn", lifecycle := .terminating, publicV4 := "198.51.100.1",
              publicV6 := none, region := "eu-1" } true
        ∧ run.client.tracker.session.AgreesWith run.client.inventory.value := by
  let client := Client.new Settings.default 0
  let started : ClientRun :=
    { new Settings.default 0 with
      loops := [{ Loops.new client with poller := some ((Poller.new client).settleIn client) }]
      background := some 0 }
  have reached : Reached Settings.default 0 started :=
    (Relation.ReflTransGen.refl.tail (Step.startLoops _ rfl)).tail
      (@Step.poll _ 0 _ _ _ _ rfl rfl (Poller.Step.settleIn rfl (by decide)))
  -- a server comes into the inventory, and the backend reports a tunnel to it
  have inserted : Relation.ReflTransGen Step started _ :=
    Relation.ReflTransGen.refl.tail (Step.insert _
      { id := "i-1", name := "vpn", lifecycle := .running, publicV4 := "198.51.100.1",
        publicV6 := none, region := "eu-1" })
  have connected :=
    (inserted.tail (@Step.poll _ 0 _ _ _ _ rfl rfl (Poller.Step.see rfl rfl))).tail
      (@Step.poll _ 0 _ _ _ _ rfl rfl (@Poller.Step.answer _ _ 0 rfl
        (.ok { connected := true, instanceId := some "i-1", publicV4 := none, publicV6 := none })))
  -- its termination begins, and the poller sees the new revision
  have path := (connected.tail (Step.start _ (.terminateServer "i-1"))).tail
    (@Step.poll _ 0 _ _ _ _ rfl rfl (Poller.Step.see rfl rfl))
  have hstarted : started.poller? 0 = some ((Poller.new client).settleIn started.client) := rfl
  have hagrees : started.client.tracker.session.AgreesWith started.client.inventory.value :=
    trivial
  have agrees := session_agrees_at_seen_revision hstarted hagrees path rfl rfl
  exact ⟨started, _, _, _, reached, hstarted, hagrees, path, rfl, rfl, rfl, agrees⟩

end ClientRun
end VpnFleet
