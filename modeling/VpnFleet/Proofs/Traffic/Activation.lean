import VpnFleet.Client.Basic
import VpnFleet.Proofs.Traffic.Phases

/-!
# Activations and the status of the stream

The status of a live stream tells how far its present activation is. It is
opening exactly while the subscription of that activation is under way, and it
is active only with the feed of that activation installed.

* `Awaited` is what is added to `Coherent`: an opening stream has its
  subscription under way, while the client lives and no activation is given
  up.
* `Engages` counts subscriptions: between two losses of the subscription at
  most one is asked for, however many activations there are.
-/

namespace VpnFleet

namespace StreamEvent

def activates : StreamEvent → Bool
  | activate _ => true
  | _ => false

/-- A deactivation, a refused subscription or the end of a feed. -/
def disturbs : StreamEvent → Bool
  | deactivate _ => true
  | settleActivate _ (.refused _) => true
  | feedEnded _ => true
  | _ => false

end StreamEvent

namespace StreamHistory

variable {past : StreamHistory} {event : StreamEvent}

/-- No activation was given up while it waited for its feed. -/
def Uncancelled (past : StreamHistory) : Prop :=
  ∀ generation, .abandonActivate generation ∉ past

theorem Uncancelled.before (h : Uncancelled (past ++ [event])) : past.Uncancelled :=
  fun generation hmem => h generation (List.mem_append_left _ hmem)

end StreamHistory

namespace StreamRun

variable {run next later : StreamRun}

/-- The subscription of the present generation is under way. -/
def Asks (run : StreamRun) : Prop :=
  ∃ s ∈ run.subscriptions, s.generation = run.generation ∧ s.stage = .asked

def Awaited (run : StreamRun) : Prop :=
  run.status = .opening → run.Asks

/-- A step of one subscription leaves the others under way, and itself if it is still asked
for. -/
theorem Coherent.exists_asked_set
    (h : run.Coherent)
    {i : Nat} {s after waiting : Subscription}
    (found : run.subscriptions[i]? = some s)
    (hgeneration : after.generation = s.generation)
    (hstage : s.stage = .asked → after.stage = .asked)
    (hwaiting : waiting ∈ run.subscriptions) (hasked : waiting.stage = .asked) :
    ∃ other ∈ run.subscriptions.set i after,
      other.generation = waiting.generation ∧ other.stage = .asked := by
  by_cases hkey : waiting.generation = s.generation
  · have hsame : waiting = s :=
      List.inj_on_of_nodup_map h.distinct hwaiting (List.mem_of_getElem? found) hkey
    obtain ⟨hlt, _⟩ := List.getElem?_eq_some_iff.1 found
    subst hsame
    exact ⟨after, List.mem_set hlt after, hgeneration, hstage hasked⟩
  · exact ⟨waiting, Keyed.mem_set_of_key_ne found hwaiting hkey, rfl, hasked⟩

/-- A step that leaves the stream keeps its subscription under way if another, of the same
generation, is under way afterwards. -/
theorem Awaited.carry
    (h : run.Awaited)
    (hstream : next.stream = run.stream)
    (hwaiting : run.status = .opening →
      ∀ waiting ∈ run.subscriptions, waiting.generation = run.generation →
        waiting.stage = .asked →
          ∃ other ∈ next.subscriptions,
            other.generation = waiting.generation ∧ other.stage = .asked) :
    next.Awaited := by
  intro hopening
  unfold status at hopening
  rw [hstream] at hopening
  obtain ⟨waiting, hmem, hcurrent, hasked⟩ := h hopening
  obtain ⟨other, hother, hsame, hstage⟩ := hwaiting hopening waiting hmem hcurrent hasked
  refine ⟨other, hother, ?_, hstage⟩
  rw [hsame, hcurrent]
  unfold generation
  rw [hstream]

theorem Awaited.keep
    (h : run.Awaited)
    (hstream : next.stream = run.stream)
    (hsubscriptions : ∀ waiting ∈ run.subscriptions, waiting.stage = .asked →
      ∃ other ∈ next.subscriptions,
        other.generation = waiting.generation ∧ other.stage = .asked) :
    next.Awaited :=
  h.carry hstream fun _ waiting hmem _ hasked => hsubscriptions waiting hmem hasked

theorem Awaited.of_status_ne
    {status : StreamStatus} (hstatus : next.status = status) (hne : status ≠ .opening) :
    next.Awaited := by
  intro hopening
  exact absurd (hstatus.symm.trans hopening) hne

/-- The answer to a subscription that is not the one of the present generation leaves that one
under way. -/
theorem Awaited.passed
    (h : run.Awaited)
    {i : Nat} {s after : Subscription}
    (found : run.subscriptions[i]? = some s)
    (hstream : next.stream = run.stream)
    (hsubscriptions : next.subscriptions = run.subscriptions.set i after)
    (hpassed : run.status = .opening → run.generation ≠ s.generation) :
    next.Awaited := by
  refine h.carry hstream fun hopening waiting hmem hcurrent hasked => ?_
  have hne : waiting.generation ≠ s.generation := by
    rw [hcurrent]
    exact hpassed hopening
  refine ⟨waiting, ?_, rfl, hasked⟩
  rw [hsubscriptions]
  exact Keyed.mem_set_of_key_ne found hmem hne

theorem Awaited.step
    (h : run.Awaited)
    (coherent : run.Coherent)
    (halive : next.alive = true)
    (uncancelled : next.past.Uncancelled)
    (step : Step run next) :
    next.Awaited := by
  cases step with
  | @activate capacity stream generation began =>
    obtain ⟨-, -, hsnapshot, -⟩ := Stream.beginActivate_eq_some began
    intro _
    refine ⟨_, List.mem_append_right _ (List.mem_singleton_self _), ?_, rfl⟩
    show generation = stream.snapshot.generation
    rw [hsnapshot]
  | passActivate passed =>
    obtain ⟨-, rfl⟩ := Stream.beginActivate_eq_none passed
    exact h
  | @settleActivate answer i s stream outcome found asked settled =>
    have hlive : run.alive = true := halive
    rcases Stream.settleActivate_cases settled with
      ⟨feed, rfl, -, -, -, -, hsnapshot, -⟩ | ⟨feed, rfl, -, hpassed, rfl⟩
        | ⟨message, rfl, -, -, hsnapshot, -⟩ | ⟨message, rfl, -, hpassed, rfl⟩
    · have hstatus : stream.snapshot.status = .active := by
        rw [hsnapshot]
      exact Awaited.of_status_ne hstatus nofun
    · exact h.passed found rfl rfl fun hopening hcurrent =>
        hpassed ⟨hlive, hcurrent, hopening⟩
    · have hstatus : stream.snapshot.status = .unavailable message := by
        rw [hsnapshot]
      exact Awaited.of_status_ne hstatus nofun
    · exact h.passed found rfl rfl fun _ => hpassed
  | @abandonActivate i s found asked =>
    have hgivenUp : StreamEvent.abandonActivate s.generation
        ∈ run.past ++ [.abandonActivate s.generation] :=
      List.mem_append_right _ (List.mem_singleton_self _)
    exact absurd hgivenUp (uncancelled s.generation)
  | @deactivate stream given cleared =>
    obtain ⟨hsnapshot, -, -⟩ := Stream.deactivate_eq cleared
    have hstatus : stream.snapshot.status = .inactive := by
      rw [hsnapshot]
    exact Awaited.of_status_ne hstatus nofun
  | answerUnsubscribe feed answer issued => exact h
  | push record found offered =>
    exact h.keep rfl fun waiting => coherent.exists_asked_set found rfl id
  | finish found => exact h.keep rfl fun waiting => coherent.exists_asked_set found rfl id
  | @receive i s feed channel record stream goesOn found forwarded taken received =>
    have hread := Subscription.stage_ne_asked_of_forwarded forwarded
    rcases Stream.receive_cases received with
      ⟨-, -, -, hshown, hsnapshot, -⟩ | ⟨rfl, -, rfl⟩
    · have hstatus : stream.snapshot.status = .active := by
        rw [hsnapshot]
        exact hshown
      exact Awaited.of_status_ne hstatus nofun
    · exact h.keep rfl fun waiting =>
        coherent.exists_asked_set found rfl fun hasked => absurd hasked hread
  | @feedEnded i s feed channel found forwarded ended =>
    have hread := Subscription.stage_ne_asked_of_forwarded forwarded
    rcases Stream.feedEnded_cases run.stream run.alive s.generation with
      ⟨-, -, -, hsnapshot, -⟩ | ⟨-, hsame⟩
    · have hstatus :
          (run.stream.feedEnded run.alive s.generation).snapshot.status = .feedClosed := by
        rw [hsnapshot]
      exact Awaited.of_status_ne hstatus nofun
    · exact h.keep hsame fun waiting =>
        coherent.exists_asked_set found rfl fun hasked => absurd hasked hread
  | @stopForwarder i s feed found forwarded givenUp =>
    have hread := Subscription.stage_ne_asked_of_forwarded forwarded
    exact h.keep rfl fun waiting =>
      coherent.exists_asked_set found rfl fun hasked => absurd hasked hread
  | retire => cases halive

theorem Reached.awaited
    (reached : Reached run)
    (halive : run.alive = true)
    (uncancelled : run.past.Uncancelled) :
    run.Awaited := by
  induction reached with
  | refl => exact Awaited.of_status_ne rfl nofun
  | @tail mid last reached step ih =>
    obtain ⟨event, hpast⟩ := step.exists_past_eq
    have hbefore : mid.past.Uncancelled := by
      rw [hpast] at uncancelled
      exact uncancelled.before
    exact (ih (step.alive halive) hbefore).step (Reached.coherent reached) halive uncancelled step

/-- What a stretch of history without a disturbance does to an engagement: an activation engages
the stream, nothing ends the engagement, and a subscription is asked for once where the stream
gets engaged. -/
structure Engages (stretch : StreamHistory) (before after : Bool) : Prop where
  engaged : after = (before || stretch.any StreamEvent.activates)
  subscribes : stretch.calls.count .subscribe
    = if stretch.any StreamEvent.activates && !before then 1 else 0

theorem engages_nil (before : Bool) : Engages [] before before where
  engaged := by simp
  subscribes := by simp [StreamHistory.calls]

theorem Engages.trans
    {first second : StreamHistory} {before middle after : Bool}
    (h₁ : Engages first before middle) (h₂ : Engages second middle after) :
    Engages (first ++ second) before after where
  engaged := by
    rw [h₂.engaged, h₁.engaged, List.any_append, Bool.or_assoc]
  subscribes := by
    have hcalls : (first ++ second).calls = first.calls ++ second.calls :=
      List.flatMap_append
    rw [hcalls, List.count_append, h₁.subscribes, h₂.subscribes, h₁.engaged, List.any_append]
    cases before <;> cases first.any StreamEvent.activates <;> simp

theorem engages_of_quiet
    {event : StreamEvent} {before after : Bool}
    (hquiet : event.activates = false)
    (hcalls : event.calls = [] ∨ ∃ feed, event.calls = [.unsubscribe feed])
    (hkept : after = before) :
    Engages [event] before after where
  engaged := by
    rw [hkept]
    simp [hquiet]
  subscribes := by
    rcases hcalls with hcalls | ⟨feed, hcalls⟩ <;> simp [StreamHistory.calls, hcalls, hquiet]

theorem Step.engages (step : Step run next) :
    ∃ event, next.past = run.past ++ [event]
      ∧ (event.disturbs = false →
        Engages [event] run.status.isEngaged next.status.isEngaged) := by
  cases step with
  | @activate capacity stream generation began =>
    obtain ⟨hidle, -, hsnapshot, -⟩ := Stream.beginActivate_eq_some began
    have hbefore : run.status.isEngaged = false := hidle
    have hafter : stream.snapshot.status.isEngaged = true := by
      rw [hsnapshot]
      rfl
    refine ⟨_, rfl, fun _ => ⟨?_, ?_⟩⟩
    · rw [hbefore]
      exact hafter
    · rw [hbefore]
      rfl
  | passActivate passed =>
    obtain ⟨hengaged, rfl⟩ := Stream.beginActivate_eq_none passed
    have hbefore : run.status.isEngaged = true := hengaged
    refine ⟨_, rfl, fun _ => ⟨?_, ?_⟩⟩
    · rw [hbefore]
      exact hengaged
    · rw [hbefore]
      rfl
  | @settleActivate answer i s stream outcome found asked settled =>
    refine ⟨_, rfl, fun hundisturbed => ?_⟩
    rcases Stream.settleActivate_cases settled with
      ⟨feed, rfl, -, -, -, hopening, hsnapshot, -⟩ | ⟨feed, rfl, -, -, rfl⟩
        | ⟨message, rfl, -⟩ | ⟨message, rfl, -⟩
    · have hbefore : run.status.isEngaged = true := congrArg StreamStatus.isEngaged hopening
      have hafter : stream.snapshot.status.isEngaged = true := by
        rw [hsnapshot]
        rfl
      exact engages_of_quiet rfl (Or.inl rfl) (Eq.trans hafter hbefore.symm)
    · exact engages_of_quiet rfl (Or.inr ⟨feed, rfl⟩) rfl
    · cases hundisturbed
    · cases hundisturbed
  | abandonActivate found asked => exact ⟨_, rfl, fun _ => engages_of_quiet rfl (Or.inl rfl) rfl⟩
  | deactivate cleared => exact ⟨_, rfl, fun hundisturbed => by cases hundisturbed⟩
  | answerUnsubscribe feed answer issued =>
    exact ⟨_, rfl, fun _ => engages_of_quiet rfl (Or.inl rfl) rfl⟩
  | push record found offered => exact ⟨_, rfl, fun _ => engages_of_quiet rfl (Or.inl rfl) rfl⟩
  | finish found => exact ⟨_, rfl, fun _ => engages_of_quiet rfl (Or.inl rfl) rfl⟩
  | @receive i s feed channel record stream goesOn found forwarded taken received =>
    refine ⟨_, rfl, fun _ => engages_of_quiet rfl (Or.inl rfl) ?_⟩
    rcases Stream.receive_cases received with ⟨-, -, -, hshown, hsnapshot, -⟩ | ⟨-, -, rfl⟩
    · have hafter : stream.snapshot.status = run.status := by
        rw [hsnapshot]
        rfl
      exact congrArg StreamStatus.isEngaged hafter
    · rfl
  | feedEnded found forwarded ended => exact ⟨_, rfl, fun hundisturbed => by cases hundisturbed⟩
  | stopForwarder found forwarded givenUp =>
    exact ⟨_, rfl, fun _ => engages_of_quiet rfl (Or.inl rfl) rfl⟩
  | retire => exact ⟨_, rfl, fun _ => engages_of_quiet rfl (Or.inl rfl) rfl⟩

/-- However many activations a stretch without a disturbance has, at most one of them asks for a
subscription. -/
theorem engages_of_path
    (path : Relation.ReflTransGen Step run later)
    {stretch : StreamHistory}
    (hpast : later.past = run.past ++ stretch)
    (undisturbed : ∀ event ∈ stretch, event.disturbs = false) :
    Engages stretch run.status.isEngaged later.status.isEngaged := by
  induction path generalizing stretch with
  | refl =>
    obtain rfl : stretch = [] := by
      simpa using hpast
    exact engages_nil _
  | @tail mid last path step ih =>
    obtain ⟨event, hlast, hstep⟩ := step.engages
    obtain ⟨first, hfirst⟩ := exists_stretch path
    obtain rfl : stretch = first ++ [event] := by
      rw [hlast, hfirst, List.append_assoc] at hpast
      exact (List.append_cancel_left hpast).symm
    have hbefore := ih hfirst fun other hother =>
      undisturbed other (List.mem_append_left _ hother)
    have hafter := hstep (undisturbed event (by simp))
    exact hbefore.trans hafter

/-- The status of a live stream tells how far the present activation is. -/
theorem status_follows_activation
    (reached : Reached run)
    (halive : run.alive = true)
    (uncancelled : run.past.Uncancelled) :
    (run.stream.snapshot.traffic.isSome → run.status = .active)
      ∧ (run.status = .active → run.Installed)
      ∧ (run.status = .opening ↔ run.Asks)
      ∧ (∀ (later : StreamRun) (stretch : StreamHistory),
          Relation.ReflTransGen Step run later → later.past = run.past ++ stretch →
          (∀ event ∈ stretch, event.disturbs = false) →
          stretch.calls.count .subscribe
            = if stretch.any StreamEvent.activates && !run.status.isEngaged then 1 else 0)
      ∧ ∀ client : Client, client.stream = run.stream → client.view.traffic.isSome →
          client.tracker.session.isConnected = true
            ∧ client.stream.snapshot.status = .active := by
  have coherent := reached.coherent
  have hshows : run.stream.snapshot.traffic.isSome → run.status = .active := by
    intro hsome
    by_contra hidle
    rw [coherent.quiet hidle] at hsome
    cases hsome
  refine ⟨hshows, coherent.held, ⟨reached.awaited halive uncancelled, ?_⟩, ?_, ?_⟩
  · rintro ⟨s, hs, hcurrent, hasked⟩
    exact coherent.asked s hs hasked hcurrent
  · intro later stretch path hpast undisturbed
    exact (engages_of_path path hpast undisturbed).subscribes
  · intro client hstream hview
    by_cases hopen : client.tracker.session.isConnected = true
    · have htraffic : client.view.traffic = run.stream.snapshot.traffic := by
        rw [← hstream]
        exact if_pos hopen
      rw [htraffic] at hview
      refine ⟨hopen, ?_⟩
      rw [hstream]
      exact hshows hview
    · have hnone : client.view.traffic = none := if_neg hopen
      rw [hnone] at hview
      cases hview

theorem two_activations_share_a_feed :
    ∃ run, Reached run ∧ run.alive = true ∧ run.past.Uncancelled
      ∧ run.past.countP StreamEvent.activates = 2
      ∧ run.past.calls.count .subscribe = 1
      ∧ run.stream.snapshot.traffic.isSome
      ∧ run.status = .active
      ∧ run.Installed
      ∧ ¬ run.Asks := by
  have begun : Reached _ :=
    (Relation.ReflTransGen.refl.tail (@Step.activate new 4 _ _ rfl)).tail
      (@Step.passActivate _ _ rfl)
  have installed := begun.tail (@Step.settleActivate _ (.ok "feed-1") 0 _ _ _ rfl rfl rfl)
  have pushed := installed.tail (@Step.push _ ⟨1, 2, 3, 4, 0.0, 0.0⟩ 0 _ _ _ rfl rfl)
  have reached := pushed.tail (@Step.receive _ 0 _ "feed-1" _ _ _ _ rfl rfl rfl rfl)
  have uncancelled : StreamHistory.Uncancelled
      [.activate (some 1), .activate none, .settleActivate 1 (.installed ⟨"feed-1", 1⟩),
        .push 1 ⟨1, 2, 3, 4, 0.0, 0.0⟩ true, .receive 1 ⟨1, 2, 3, 4, 0.0, 0.0⟩] := by
    intro generation hmem
    simp at hmem
  have atStart := status_follows_activation Relation.ReflTransGen.refl rfl nofun
  have atEnd := status_follows_activation reached rfl uncancelled
  have hactive := atEnd.1 rfl
  refine ⟨_, reached, rfl, uncancelled, rfl, ?_, rfl, hactive, atEnd.2.1 hactive, ?_⟩
  · exact atStart.2.2.2.1 _ _ reached rfl (by simp [note, new, StreamEvent.disturbs])
  · intro hasks
    cases hactive.symm.trans (atEnd.2.2.1.2 hasks)

end StreamRun
end VpnFleet
