import VpnFleet.Proofs.Client.Aftermath
import VpnFleet.Proofs.Client.Underway
import VpnFleet.Proofs.Traffic.Moves

/-!
# Subscriptions under way

Activations by hand and the followers wait for feeds, any number at once, and
the backend answers in any order. Every activation has taken its generation
from the stream, so none of those under way is ahead of it.

* `Follower.Drives` says what a step of a follower is to the stream, and
  `StreamStep` what any step of a run is: at most one move of the stream, by
  someone who was entitled to it.
* `Subscribing` says that someone waits for the feed of an activation. Only an
  activation that begins adds to these.
* `InOrder` bounds them by the generation of the stream.
-/

namespace VpnFleet

/-- What a step of a follower is to the stream. -/
inductive Follower.Drives (client : Client) (follower : Follower) (turn : FollowerTurn) : Prop
  | rested (stream : turn.client.stream = client.stream)
      (waits : ∀ generation, turn.follower.stage ≠ .subscribing generation)
  | cleared (stream : turn.client.stream = client.stream.deactivate.1)
      (waits : ∀ generation, turn.follower.stage ≠ .subscribing generation)
  | begun (running : client.isStopping = false)
      (stream : turn.client.stream = client.stream.beginActivate.1)
      (waits : ∀ generation, turn.follower.stage = .subscribing generation →
        client.stream.beginActivate.2 = some generation)
  | answered {generation : Nat} (subscribing : follower.stage = .subscribing generation)
      (answer : Except String String)
      (stream : turn.client.stream
        = (client.stream.settleActivate client.alive generation answer).1)
      (waits : ∀ later, turn.follower.stage ≠ .subscribing later)

namespace Follower

variable {before follower : Follower} {client : Client} {turn : FollowerTurn}

theorem deactivate_drives (follower : Follower) (client : Client) (leaving : Bool) :
    before.Drives client (follower.deactivate client leaving) := by
  unfold deactivate
  split
  · next stream active hgiven => exact .cleared (by rw [hgiven]) nofun
  · next stream hgiven =>
      refine .cleared (by rw [hgiven]; rfl) ?_
      cases leaving <;> exact nofun

theorem activate_drives
    (follower : Follower) (client : Client) (hrunning : client.isStopping = false) :
    before.Drives client (follower.activate client) := by
  unfold activate
  split
  · next stream generation hbegun =>
      refine .begun hrunning (by rw [hbegun]; rfl) ?_
      intro later hlater
      rw [hbegun]
      cases hlater
      rfl
  · next stream hbegun => exact .begun hrunning (by rw [hbegun]; rfl) nofun

theorem look_drives (follower : Follower) (client : Client) :
    before.Drives client (follower.look client) := by
  by_cases hstopping : client.isStopping = true
  · simpa [look, hstopping] using deactivate_drives follower client true
  · by_cases hopen : client.tracker.session.isConnected = true
    · simpa [look, hstopping, hopen] using activate_drives _ client (by simpa using hstopping)
    · simpa [look, hstopping, hopen] using deactivate_drives _ client false

theorem onSubscribed_drives
    {generation : Nat} (hstage : follower.stage = .subscribing generation) (client : Client)
    (answer : Except String String) :
    follower.Drives client (follower.onSubscribed client generation answer) := by
  unfold onSubscribed
  dsimp only
  split <;> exact .answered hstage answer rfl nofun

theorem Step.drives (step : follower.Step client turn) : follower.Drives client turn := by
  cases step with
  | begin fresh => exact look_drives follower client
  | stop resting due => exact deactivate_drives _ client true
  | see resting due => exact look_drives follower client
  | subscribed subscribing answer => exact onSubscribed_drives subscribing client answer
  | @closed feed leaving closing =>
    refine .rested rfl ?_
    cases leaving <;> exact nofun

end Follower

theorem Client.activate_stream (client : Client) :
    client.activate.client.stream = client.stream.beginActivate.1
      ∧ client.activate.next.subscription? = client.stream.beginActivate.2 := by
  unfold activate
  split
  · next stream generation hbegun =>
      rw [hbegun]
      exact ⟨rfl, rfl⟩
  · next stream hbegun =>
      rw [hbegun]
      exact ⟨rfl, rfl⟩

namespace ClientRun

/-- Someone waits for the feed of this activation. -/
def Subscribing (run : ClientRun) (generation : Nat) : Prop :=
  (∃ job ∈ run.jobs, job.operation.subscription? = some generation)
    ∨ ∃ follower, some follower ∈ run.followers ∧ follower.stage = .subscribing generation

variable {run next : ClientRun} {yield : Yield} {generation : Nat}

namespace Subscribing

theorem mono
    (h : next.Subscribing generation)
    (hjobs : ∀ job ∈ next.jobs, job ∈ run.jobs ∨ job.operation.subscription? = none)
    (hfollowers : next.followers = run.followers) :
    run.Subscribing generation := by
  rcases h with ⟨job, hjob, hwaits⟩ | ⟨follower, hfollower, hwaits⟩
  · rcases hjobs job hjob with hearlier | hnone
    · exact Or.inl ⟨job, hearlier, hwaits⟩
    · rw [hnone] at hwaits
      cases hwaits
  · rw [hfollowers] at hfollower
    exact Or.inr ⟨follower, hfollower, hwaits⟩

theorem of_drop {i : Nat} (h : (run.drop i).Subscribing generation) :
    run.Subscribing generation :=
  h.mono (fun _ hjob => Or.inl (List.mem_of_mem_eraseIdx hjob)) rfl

theorem of_set
    {i : Nat} {job : Job} (hnone : job.operation.subscription? = none)
    (h : ({ run with jobs := run.jobs.set i job } : ClientRun).Subscribing generation) :
    run.Subscribing generation := by
  refine h.mono ?_ rfl
  intro other hother
  rcases List.mem_or_eq_of_mem_set hother with hearlier | rfl
  · exact Or.inl hearlier
  · exact Or.inr hnone

/-- A step adds what is left of it. -/
theorem of_follow {turn : Turn yield} (h : (run.follow turn).Subscribing generation) :
    run.Subscribing generation ∨ turn.next.subscription? = some generation := by
  rcases h with ⟨job, hjob, hwaits⟩ | ⟨follower, hfollower, hwaits⟩
  · rcases run.mem_follow_jobs hjob with hearlier | ⟨operation, awaited, hnext, rfl⟩
    · exact Or.inl (Or.inl ⟨job, hearlier, hwaits⟩)
    · right
      rw [hnext]
      exact hwaits
  · rw [follow_followers] at hfollower
    exact Or.inl (Or.inr ⟨follower, hfollower, hwaits⟩)

theorem of_follow_none
    {turn : Turn yield} (hnone : turn.next.subscription? = none)
    (h : (run.follow turn).Subscribing generation) :
    run.Subscribing generation := by
  rcases h.of_follow with hearlier | hwaits
  · exact hearlier
  · rw [hnone] at hwaits
    cases hwaits

/-- The follower of one start may wait for something else after its step. -/
theorem of_pursue
    {start : Nat} {loops : Loops} {turn : FollowerTurn}
    (h : ((run.take turn.client turn.effects).setLoops start
      { loops with follower := some turn.follower }).Subscribing generation) :
    run.Subscribing generation ∨ turn.follower.stage = .subscribing generation := by
  rcases h with ⟨job, hjob, hwaits⟩ | ⟨follower, hfollower, hwaits⟩
  · left
    left
    exact ⟨job, by simpa [setLoops] using hjob, hwaits⟩
  · have hset : some follower ∈ run.followers.set start (some turn.follower) := by
      simpa [followers, setLoops, List.map_set] using hfollower
    rcases List.mem_or_eq_of_mem_set hset with hearlier | hmoved
    · exact Or.inl (Or.inr ⟨follower, hearlier, hwaits⟩)
    · cases hmoved
      exact Or.inr hwaits

/-- A follower that has left waits for nothing. -/
theorem of_leaveFollower
    {start : Nat} {loops : Loops}
    (h : (run.setLoops start { loops with follower := none }).Subscribing generation) :
    run.Subscribing generation := by
  rcases h with hjob | ⟨follower, hfollower, hwaits⟩
  · exact Or.inl hjob
  · have hset : some follower ∈ run.followers.set start none := by
      simpa [followers, setLoops, List.map_set] using hfollower
    rcases List.mem_or_eq_of_mem_set hset with hearlier | hgone
    · exact Or.inr ⟨follower, hearlier, hwaits⟩
    · cases hgone

theorem of_startLoops
    {background : Option Nat}
    (h : ({ run with loops := run.loops ++ [Loops.new run.client], background } :
      ClientRun).Subscribing generation) :
    run.Subscribing generation := by
  rcases h with hjob | ⟨follower, hfollower, hwaits⟩
  · exact Or.inl hjob
  · have hmem : some follower ∈ run.followers ++ [some (Follower.new run.client)] := by
      simpa [followers, Loops.new] using hfollower
    rw [List.mem_append, List.mem_singleton] at hmem
    rcases hmem with hearlier | hfresh
    · exact Or.inr ⟨follower, hearlier, hwaits⟩
    · cases hfresh
      cases hwaits

end Subscribing

/-- What a step is to the stream, and to those who wait for feeds. -/
inductive StreamStep (run next : ClientRun) : Prop
  | aside (stream : next.client.stream = run.client.stream)
      (waits : ∀ generation, next.Subscribing generation → run.Subscribing generation)
  | begun
      (entitled : next = run.follow (Command.activateStream.start run.client)
        ∨ run.client.isStopping = false)
      (stream : next.client.stream = run.client.stream.beginActivate.1)
      (waits : ∀ generation, next.Subscribing generation →
        run.Subscribing generation ∨ run.client.stream.beginActivate.2 = some generation)
  | answered {generation : Nat} (entitled : run.Subscribing generation)
      (answer : Except String String)
      (stream : next.client.stream
        = (run.client.stream.settleActivate run.client.alive generation answer).1)
      (waits : ∀ generation, next.Subscribing generation → run.Subscribing generation)
  | cleared (stream : next.client.stream = run.client.stream.deactivate.1)
      (waits : ∀ generation, next.Subscribing generation → run.Subscribing generation)
  | received (generation : Nat) (record : TrafficRecord)
      (stream : next.client.stream
        = (run.client.stream.receive run.client.alive generation record).1)
      (waits : ∀ generation, next.Subscribing generation → run.Subscribing generation)
  | ended (generation : Nat)
      (stream : next.client.stream = run.client.stream.feedEnded run.client.alive generation)
      (waits : ∀ generation, next.Subscribing generation → run.Subscribing generation)

theorem StreamStep.move (streamStep : StreamStep run next) :
    Stream.Move run.client.alive run.client.stream next.client.stream := by
  cases streamStep with
  | aside stream waits => exact stream ▸ .stay
  | begun entitled stream waits => exact stream ▸ .beginActivate
  | answered entitled answer stream waits => exact stream ▸ .settleActivate _ answer
  | cleared stream waits => exact stream ▸ .deactivate
  | received generation record stream waits => exact stream ▸ .receive generation record
  | ended generation stream waits => exact stream ▸ .feedEnded generation

theorem start_streamStep (run : ClientRun) (command : Command yield) :
    StreamStep run (run.follow (command.start run.client)) := by
  by_cases hdrives : command.drivesStream = false
  · refine .aside ?_ fun generation h =>
      h.of_follow_none (command.start_subscription? run.client hdrives)
    rw [follow_client]
    exact command.start_stream run.client hdrives
  · cases command with
    | activateStream =>
      obtain ⟨hstream, hnext⟩ := run.client.activate_stream
      refine .begun (Or.inl rfl) ?_ ?_
      · rw [follow_client]
        exact hstream
      · intro generation h
        rw [← hnext]
        exact h.of_follow
    | deactivateStream =>
      have hleft := Next.subscription?_eq_none (run.client.deactivate_interferes .silent)
      refine .cleared ?_ fun generation h => h.of_follow_none hleft
      rw [follow_client]
      exact run.client.deactivate_stream .silent
    | _ => exact absurd rfl hdrives

/-- The answer to a call is for the stream if the call was a subscription or the end of a
disconnection. -/
theorem settle_streamStep
    {i : Nat} {call : Call} {resumption : Resumption call yield} {awaited : Option Nat}
    (answer : call.Answer)
    (found : run.jobs[i]? = some ⟨yield, .awaiting call resumption, awaited⟩) :
    StreamStep run ((run.drop i).follow (resumption.settle run.client answer)) := by
  have hleft := Next.subscription?_eq_none (resumption.settle_interferes run.client answer)
  have hwaits (generation : Nat)
      (h : ((run.drop i).follow (resumption.settle run.client answer)).Subscribing generation) :
      run.Subscribing generation :=
    (h.of_follow_none hleft).of_drop
  by_cases hdrives : resumption.drivesStream = false
  · refine .aside ?_ hwaits
    rw [follow_client]
    exact (resumption.settle_sameStream run.client answer hdrives).stream
  · cases resumption with
    | activate generation =>
      refine .answered (Or.inl ⟨_, List.mem_of_getElem? found, rfl⟩) answer ?_ hwaits
      rw [follow_client]
      exact Resumption.settleActivate_stream generation answer
    | disconnect reporting =>
      cases reporting with
      | silent => exact absurd rfl hdrives
      | noticed =>
        refine .cleared ?_ hwaits
        rw [follow_client]
        exact Resumption.settleDisconnect_noticed_stream run.client answer
    | _ => exact absurd rfl hdrives

theorem pursue_streamStep
    {start : Nat} {loops : Loops} {follower : Follower} {turn : FollowerTurn}
    (found : run.loops[start]? = some loops) (present : loops.follower = some follower)
    (drives : follower.Drives run.client turn) :
    StreamStep run ((run.take turn.client turn.effects).setLoops start
      { loops with follower := some turn.follower }) := by
  have hfollower : some follower ∈ run.followers := by
    refine List.mem_of_getElem? (i := start) ?_
    rw [getElem?_followers found, present]
  have hstream {stream : Stream} (h : turn.client.stream = stream) :
      ((run.take turn.client turn.effects).setLoops start
        { loops with follower := some turn.follower }).client.stream = stream := by
    simpa [setLoops] using h
  cases drives with
  | rested stream waits =>
    exact .aside (hstream stream) fun generation h =>
      h.of_pursue.resolve_right (waits generation)
  | cleared stream waits =>
    exact .cleared (hstream stream) fun generation h =>
      h.of_pursue.resolve_right (waits generation)
  | begun running stream waits =>
    refine .begun (Or.inr running) (hstream stream) ?_
    intro generation h
    rcases h.of_pursue with hearlier | hbegun
    · exact Or.inl hearlier
    · exact Or.inr (waits generation hbegun)
  | answered subscribing answer stream waits =>
    exact .answered (Or.inr ⟨follower, hfollower, subscribing⟩) answer (hstream stream)
      fun generation h => h.of_pursue.resolve_right (waits generation)

theorem Step.streamStep (step : Step run next) : StreamStep run next := by
  have hkept (jobs : next.jobs = run.jobs) (hfollowers : next.followers = run.followers)
      (generation : Nat) (h : next.Subscribing generation) : run.Subscribing generation :=
    h.mono (fun job hjob => Or.inl (jobs ▸ hjob)) hfollowers
  cases step with
  | start command => exact start_streamStep run command
  | settle answer found => exact settle_streamStep answer found
  | askListing found next => exact .aside rfl fun _ h => h.of_set rfl
  | answerListing listing found slotFound asked => exact .aside rfl fun _ h => h.of_set rfl
  | @settleSweep i yield sweep goal awaited found done =>
    have hleft := Next.subscription?_eq_none (run.client.settleSweep_interferes sweep goal)
    refine .aside ?_ fun generation h => (h.of_follow_none hleft).of_drop
    rw [follow_client]
    exact (run.client.settleSweep_sameStream sweep goal).stream
  | drain found ended =>
    have hleft := Next.subscription?_eq_none (run.client.deactivate_interferes .silent)
    refine .cleared ?_ fun generation h => (h.of_follow_none hleft).of_drop
    rw [follow_client]
    exact run.client.deactivate_stream .silent
  | @abandon i job found =>
    refine .aside (job.operation.abandon_sameStream run.client).stream fun generation h => ?_
    exact h.mono (fun _ hjob => Or.inl (List.mem_of_mem_eraseIdx hjob)) rfl
  | beginSpawn accepted =>
    exact .aside (Client.beginSpawn_sameStream run.client accepted).stream (hkept rfl rfl)
  | @confirm i placeholder found =>
    refine .aside (by simp [Client.confirm, Turn.awaiting]) ?_
    intro generation h
    have hbefore := h.of_follow_none (by rfl)
    exact hbefore
  | startLoops unstarted => exact .aside rfl fun _ h => h.of_startLoops
  | poll found present step =>
    exact .aside step.sameStream.stream (hkept rfl (setLoops_followers found rfl))
  | leavePoller found present ended =>
    exact .aside rfl (hkept rfl (setLoops_followers found rfl))
  | pursue found present step => exact pursue_streamStep found present step.drives
  | leaveFollower found present ended => exact .aside rfl fun _ h => h.of_leaveFollower
  | @announce start loops herald found present due =>
    exact .aside (herald.onStream_sameStream run.client).stream
      (hkept rfl (setLoops_followers found rfl))
  | leaveHerald found present due =>
    exact .aside rfl (hkept rfl (setLoops_followers found rfl))
  | @receive feed stream goesOn record forwarded received =>
    refine .received feed.generation record ?_ (hkept rfl rfl)
    rw [received]
  | @feedEnded feed forwarded => exact .ended feed.generation rfl (hkept rfl rfl)
  | _ => exact .aside rfl (hkept rfl rfl)

/-- Nobody waits for the feed of an activation that is ahead of the stream. -/
def InOrder (run : ClientRun) : Prop :=
  ∀ generation, run.Subscribing generation → generation ≤ run.client.stream.snapshot.generation

theorem InOrder.step (h : run.InOrder) (step : Step run next) : next.InOrder := by
  have hle := step.streamStep.move.generation_le
  intro generation hwaits
  have hearlier (hrun : run.Subscribing generation) :
      generation ≤ next.client.stream.snapshot.generation :=
    Nat.le_trans (h generation hrun) hle
  cases step.streamStep with
  | aside stream waits => exact hearlier (waits generation hwaits)
  | begun entitled stream waits =>
    rcases waits generation hwaits with hrun | hbegun
    · exact hearlier hrun
    · have hboth : run.client.stream.beginActivate = (next.client.stream, some generation) :=
        Prod.ext stream.symm hbegun
      obtain ⟨-, -, hopening, -⟩ := Stream.beginActivate_eq_some hboth
      simp [hopening]
  | answered entitled answer stream waits => exact hearlier (waits generation hwaits)
  | cleared stream waits => exact hearlier (waits generation hwaits)
  | received number record stream waits => exact hearlier (waits generation hwaits)
  | ended number stream waits => exact hearlier (waits generation hwaits)

theorem Reached.inOrder
    {settings : Settings} {salt : Nat} (reached : Reached settings salt run) : run.InOrder := by
  induction reached with
  | refl =>
    rintro generation (⟨job, hjob, -⟩ | ⟨follower, hfollower, -⟩)
    · cases hjob
    · cases hfollower
  | tail _ step ih => exact ih.step step

end ClientRun
end VpnFleet
