import VpnFleet.Proofs.Client.Following
import VpnFleet.Proofs.Client.Underway

/-!
# Runs that leave the stream to the follower

In an unaided run nobody turns the stream on or off by hand; everything else
may run, in any order. While such a run is alive, no operation under way will
surprise the follower, and there is at most one follower.

* `Undisturbed` says that no operation under way interferes.
* `Course` says what a step of such a run is to the follower.
* `Followed` is the invariant of the run.
-/

namespace VpnFleet

namespace ClientRun

/-- A step, but not the start of a command that turns the stream on or off by hand. -/
structure Unaided (run next : ClientRun) : Prop where
  step : Step run next
  notActivated : next ≠ run.follow (Command.activateStream.start run.client)
  notDeactivated : next ≠ run.follow (Command.deactivateStream.start run.client)

variable {run next : ClientRun}

/-- The loops show that a step was not the start of a command. -/
theorem Unaided.of_loops_ne (step : Step run next) (hloops : next.loops ≠ run.loops) :
    Unaided run next where
  step := step
  notActivated := by
    intro hsame
    exact hloops (by rw [hsame, follow_loops])
  notDeactivated := by
    intro hsame
    exact hloops (by rw [hsame, follow_loops])

theorem Unaided.of_tracker_ne
    (step : Step run next) (htracker : next.client.tracker ≠ run.client.tracker) :
    Unaided run next where
  step := step
  notActivated := by
    intro hsame
    apply htracker
    rw [hsame, follow_client]
    exact run.client.activate_keeps.tracker
  notDeactivated := by
    intro hsame
    apply htracker
    rw [hsame, follow_client]
    exact (run.client.deactivate_keeps .silent).tracker

/-- What a step is to the followers. -/
inductive Course (run next : ClientRun) : Prop
  | aside (client : run.client.Aside next.client)
      (background : next.background = run.background)
      (followers : next.followers = run.followers)
  | started (client : next.client = run.client)
      (unstarted : run.background = none)
      (background : next.background ≠ none)
      (followers : next.followers = run.followers ++ [some (Follower.new run.client)])
  | pursued {start : Nat} {follower : Follower} {turn : FollowerTurn}
      (found : run.followers[start]? = some (some follower))
      (step : follower.Step run.client turn)
      (client : next.client = turn.client)
      (background : next.background = run.background)
      (followers : next.followers = run.followers.set start (some turn.follower))
  | left {start : Nat} {follower : Follower}
      (found : run.followers[start]? = some (some follower))
      (ended : follower.stage = .ended)

/-- No operation under way interferes. -/
def Undisturbed (run : ClientRun) : Prop :=
  ∀ job ∈ run.jobs, job.operation.interferes = false

theorem Undisturbed.drop (h : run.Undisturbed) (i : Nat) : (run.drop i).Undisturbed :=
  fun job hjob => h job (List.mem_of_mem_eraseIdx hjob)

theorem Undisturbed.follow
    {yield : Yield} {turn : Turn yield} (h : run.Undisturbed)
    (hturn : turn.next.interferes = false) :
    (run.follow turn).Undisturbed := by
  intro job hjob
  rcases run.mem_follow_jobs hjob with hearlier | ⟨operation, awaited, hnext, rfl⟩
  · exact h job hearlier
  · rw [hnext] at hturn
    exact hturn

theorem Undisturbed.at
    (h : run.Undisturbed) {i : Nat} {job : Job} (found : run.jobs[i]? = some job) :
    job.operation.interferes = false :=
  h job (List.mem_of_getElem? found)

theorem Undisturbed.set
    (h : run.Undisturbed) {job : Job} (hjob : job.operation.interferes = false) (i : Nat) :
    ({ run with jobs := run.jobs.set i job } : ClientRun).Undisturbed := by
  intro other hother
  rcases List.mem_or_eq_of_mem_set hother with hearlier | rfl
  · exact h other hearlier
  · exact hjob

/-- A command of an unaided run is not one for the stream. -/
theorem Unaided.command_drives
    {yield : Yield} {command : Command yield}
    (unaided : Unaided run (run.follow (command.start run.client))) :
    command.drivesStream = false := by
  cases command with
  | activateStream => exact absurd rfl unaided.notActivated
  | deactivateStream => exact absurd rfl unaided.notDeactivated
  | _ => rfl

theorem Undisturbed.step
    (h : run.Undisturbed) (unaided : Unaided run next) (halive : next.client.alive = true) :
    next.Undisturbed := by
  cases unaided.step with
  | start command =>
    rw [follow_client] at halive
    exact h.follow (command.start_interferes run.client unaided.command_drives
      (Command.tearsDown_of_alive halive))
  | @settle i yield call resumption awaited answer found =>
    exact (h.drop i).follow (resumption.settle_interferes run.client answer)
  | @settleSweep i yield sweep goal awaited found done =>
    exact (h.drop i).follow (run.client.settleSweep_interferes sweep goal)
  | drain found ended => exact absurd (h.at found) nofun
  | @abandon i job found => exact h.drop i
  | askListing found next => exact h.set rfl _
  | answerListing listing found slotFound asked => exact h.set rfl _
  | confirm found => exact Undisturbed.follow h rfl
  | pursue found present step =>
    intro job hjob
    rw [setLoops, take_jobs] at hjob
    exact h job hjob
  | _ => exact h

/-- A step that leaves the stream is one aside. -/
theorem Course.steady
    (step : Step run next) (stream : run.client.SameStream next.client)
    (background : next.background = run.background) (followers : next.followers = run.followers) :
    Course run next :=
  .aside (.steady stream step.move.tracker.announces) background followers

/-- The end of a disconnection publishes the session. -/
theorem settleDisconnect_aside
    (client : Client) (halive : client.alive = true) (answer : Except String Unit) :
    client.Aside (Resumption.settleDisconnect client .noticed answer).client := by
  refine .closed (Resumption.settleDisconnect_sameFlags client .noticed answer)
    (Resumption.settleDisconnect_noticed_stream client answer) ?_
  have htracker : (Resumption.settleDisconnect client .noticed answer).client.tracker
      = (client.tracker.settleDisconnect client.alive answer).1 :=
    (Client.deactivate_keeps _ _).tracker
  rw [htracker, halive]
  exact Nat.lt_succ_self _

/-- An answer that comes to an operation of an unaided run is given aside. -/
theorem settle_aside
    {call : Call} {yield : Yield} (client : Client) (halive : client.alive = true)
    (resumption : Resumption call yield) (answer : call.Answer)
    (hinterferes : (Operation.awaiting call resumption).interferes = false) :
    client.Aside (resumption.settle client answer).client := by
  by_cases hdrives : resumption.drivesStream = false
  · exact .steady (resumption.settle_sameStream client answer hdrives)
      (resumption.settle_move client answer).tracker.announces
  · cases resumption with
    | disconnect reporting =>
      cases reporting with
      | silent => exact absurd rfl hdrives
      | noticed => exact settleDisconnect_aside client halive answer
    | activate generation => cases hinterferes
    | _ => exact absurd rfl hdrives

theorem Unaided.course
    (unaided : Unaided run next) (h : run.Undisturbed) (halive : next.client.alive = true) :
    Course run next := by
  have hsame := unaided.step.sameFlags halive
  have step := unaided.step
  cases unaided.step with
  | start command =>
    rw [follow_client] at halive
    have htears := Command.tearsDown_of_alive halive
    refine .steady step ?_ (run.follow_background ?_) (run.follow_followers _)
    · rw [follow_client]
      exact command.start_sameStream run.client unaided.command_drives htears
    · exact command.start_drains run.client htears
  | @settle i yield call resumption awaited answer found =>
    have hleft := Next.drains_eq_false (resumption.settle_interferes run.client answer)
    refine .aside ?_ ((run.drop i).follow_background hleft) ((run.drop i).follow_followers _)
    rw [follow_client]
    exact settle_aside run.client (hsame.alive ▸ halive) resumption answer (h.at found)
  | @settleSweep i yield sweep goal awaited found done =>
    have hleft := Next.drains_eq_false (run.client.settleSweep_interferes sweep goal)
    refine .steady step ?_ ((run.drop i).follow_background hleft)
      ((run.drop i).follow_followers _)
    rw [follow_client]
    exact Client.settleSweep_sameStream run.client sweep goal
  | drain found ended => exact absurd (h.at found) nofun
  | @abandon i job found =>
    exact .steady step (job.operation.abandon_sameStream run.client) rfl rfl
  | beginSpawn accepted =>
    exact .steady step (Client.beginSpawn_sameStream run.client accepted) rfl rfl
  | confirm found =>
    refine .steady step ?_ (follow_background _ rfl) (follow_followers _ _)
    rw [follow_client]
    exact Client.SameStream.refl run.client
  | startLoops unstarted =>
    refine .started rfl unstarted nofun ?_
    simp [followers, Loops.new]
  | poll found present polled =>
    exact .steady step polled.sameStream rfl (setLoops_followers found rfl)
  | leavePoller found present ended =>
    exact .steady step (Client.SameStream.refl _) rfl (setLoops_followers found rfl)
  | @pursue start loops follower turn found present pursued =>
    have hfound : run.followers[start]? = some (some follower) := by
      rw [getElem?_followers found, present]
    refine .pursued hfound pursued (run.take_client _ _) (run.take_background _ _) ?_
    unfold followers setLoops
    rw [take_loops, List.map_set]
  | @leaveFollower start loops follower found present ended =>
    have hfound : run.followers[start]? = some (some follower) := by
      rw [getElem?_followers found, present]
    exact .left hfound ended
  | @announce start loops herald found present due =>
    exact .steady step (herald.onStream_sameStream run.client) rfl (setLoops_followers found rfl)
  | leaveHerald found present due =>
    exact .steady step (Client.SameStream.refl _) rfl (setLoops_followers found rfl)
  | receive record forwarded received =>
    exact .aside (.forwarded ⟨rfl, rfl⟩ rfl (Stream.receive_forwards received)) rfl rfl
  | feedEnded forwarded =>
    exact .aside (.forwarded ⟨rfl, rfl⟩ rfl (Stream.feedEnded_forwards _ _ _)) rfl rfl
  | retire => cases halive
  | _ => exact .steady step ⟨⟨rfl, rfl⟩, rfl⟩ rfl rfl

/-- Before the loops are started the stream is idle, and then one follower tracks the session. -/
def Attended (run : ClientRun) : Prop :=
  (run.background = none ∧ run.followers = [] ∧ run.client.stream.IsIdle)
    ∨ ∃ follower,
      run.background ≠ none ∧ run.followers = [some follower] ∧ follower.Tracks run.client

theorem Attended.follower_tracks
    (h : run.Attended) {start : Nat} {follower : Follower}
    (found : run.followers[start]? = some (some follower)) :
    start = 0
      ∧ run.background ≠ none
      ∧ run.followers = [some follower]
      ∧ follower.Tracks run.client := by
  rcases h with ⟨-, hnone, -⟩ | ⟨other, hbackground, hone, htracks⟩
  · rw [hnone] at found
    cases found
  · rw [hone, List.getElem?_singleton] at found
    split at found
    · next hstart =>
        cases found
        exact ⟨hstart, hbackground, hone, htracks⟩
    · cases found

theorem Attended.step
    (h : run.Attended) (course : Course run next)
    (halive : run.client.alive = true) (hstopping : run.client.stopping = Published.new false) :
    next.Attended := by
  have hrunning : run.client.isStopping = false := by
    unfold Client.isStopping
    rw [halive, hstopping]
    rfl
  cases course with
  | aside client background followers =>
    rcases h with ⟨hbackground, hnone, hidle⟩ | ⟨follower, hbackground, hone, htracks⟩
    · exact Or.inl ⟨background.trans hbackground, followers.trans hnone, client.isIdle hidle⟩
    · exact Or.inr ⟨follower, background ▸ hbackground, followers.trans hone,
        htracks.aside client⟩
  | started client unstarted background followers =>
    rcases h with ⟨-, hnone, hidle⟩ | ⟨follower, hbackground, -, -⟩
    · refine Or.inr ⟨Follower.new run.client, background, ?_, ?_⟩
      · rw [followers, hnone]
        rfl
      · rw [client]
        exact ⟨rfl, Nat.le_refl _, hidle⟩
    · exact absurd unstarted hbackground
  | @pursued start follower turn found step client background followers =>
    obtain ⟨rfl, hbackground, hone, htracks⟩ := h.follower_tracks found
    refine Or.inr ⟨turn.follower, background ▸ hbackground, ?_, ?_⟩
    · rw [followers, hone]
      rfl
    · rw [client]
      exact step.tracks htracks halive hrunning
  | left found ended =>
    obtain ⟨-, -, -, htracks⟩ := h.follower_tracks found
    have hfits := htracks.fits
    rw [ended] at hfits
    exact hfits.elim

/-- What holds along an unaided run as long as it is alive. -/
structure Followed (run : ClientRun) : Prop where
  stopping : run.client.stopping = Published.new false
  undisturbed : run.Undisturbed
  attended : run.Attended

theorem Followed.new (settings : Settings) (salt : Nat) : (new settings salt).Followed where
  stopping := rfl
  undisturbed := nofun
  attended := Or.inl ⟨rfl, rfl, rfl, rfl, rfl⟩

theorem Followed.step
    (h : run.Followed) (unaided : Unaided run next) (halive : next.client.alive = true) :
    next.Followed := by
  have hsame := unaided.step.sameFlags halive
  have hcourse := unaided.course h.undisturbed halive
  exact {
    stopping := hsame.stopping.trans h.stopping
    undisturbed := h.undisturbed.step unaided halive
    attended := h.attended.step hcourse (hsame.alive ▸ halive) h.stopping }

theorem followed_of_path
    {settings : Settings} {salt : Nat}
    (path : Relation.ReflTransGen Unaided (new settings salt) run)
    (halive : run.client.alive = true) :
    run.Followed := by
  induction path with
  | refl => exact Followed.new settings salt
  | tail _ unaided ih =>
    have hsame := (unaided.step.sameFlags halive).alive
    exact (ih (hsame ▸ halive)).step unaided halive

/-- In an unaided run a follower that rests and has seen the last publication of the session finds
the stream off while the tunnel is closed, and on or unavailable while it is open. -/
theorem stream_follows_session
    {settings : Settings} {salt start : Nat} {loops : Loops} {follower : Follower}
    (path : Relation.ReflTransGen Unaided (new settings salt) run)
    (halive : run.client.alive = true)
    (found : run.loops[start]? = some loops)
    (present : loops.follower = some follower)
    (resting : follower.stage = .resting)
    (seen : follower.sessionDue run.client = false) :
    (run.client.tracker.session = .disconnected →
        run.client.stream.snapshot.status = .inactive
          ∧ run.client.stream.snapshot.traffic = none
          ∧ run.client.stream.active = none)
      ∧ (run.client.tracker.session.isConnected = true →
        run.client.stream.snapshot.status = .active
          ∨ ∃ message, run.client.stream.snapshot.status = .unavailable message) := by
  have hfound : run.followers[start]? = some (some follower) := by
    rw [getElem?_followers found, present]
  obtain ⟨-, -, -, htracks⟩ := (followed_of_path path halive).attended.follower_tracks hfound
  have hfits := htracks.fits
  rw [resting] at hfits
  obtain ⟨-, hopen, hclosed⟩ := hfits
  have hseen : follower.sessionSeen = run.client.tracker.version := by
    simpa [Follower.sessionDue] using seen
  constructor
  · intro hsession
    have hidle := hclosed hseen (by rw [hsession]; rfl)
    exact ⟨hidle.status, hidle.traffic, hidle.active⟩
  · exact hopen hseen

theorem disconnection_passes_subscription_by :
    ∃ (run : ClientRun) (loops : Loops) (follower : Follower),
      Relation.ReflTransGen Unaided (new Settings.default 0) run
        ∧ run.client.alive = true
        ∧ run.loops[0]? = some loops
        ∧ loops.follower = some follower
        ∧ follower.stage = .resting
        ∧ follower.sessionDue run.client = false
        ∧ run.client.tracker.session = .disconnected
        ∧ run.client.stream.snapshot.status = .inactive
        ∧ run.client.stream.snapshot.generation = 4 := by
  have started : Relation.ReflTransGen Unaided (new Settings.default 0) _ :=
    (Relation.ReflTransGen.refl.tail (.of_loops_ne (Step.startLoops _ rfl) nofun)).tail
      (.of_loops_ne (@Step.pursue _ 0 _ _ _ rfl rfl (Follower.Step.begin rfl)) nofun)
  -- the poller finds a tunnel open, and the follower asks for a feed
  have connected :=
    ((started.tail
      (.of_loops_ne (@Step.poll _ 0 _ _ _ _ rfl rfl (Poller.Step.settleIn rfl (by decide)))
        nofun)).tail
      (.of_loops_ne (@Step.poll _ 0 _ _ _ _ rfl rfl (Poller.Step.tick rfl)) nofun)).tail
      (.of_loops_ne (@Step.poll _ 0 _ _ _ _ rfl rfl (@Poller.Step.answer _ _ 0 rfl
        (.ok { connected := true, instanceId := none, publicV4 := none, publicV6 := none }))) nofun)
  have subscribing := connected.tail
    (.of_loops_ne (@Step.pursue _ 0 _ _ _ rfl rfl (Follower.Step.see rfl rfl)) nofun)
  -- a disconnection begins and ends before the feed comes
  have disconnected := (subscribing.tail
    ⟨Step.start _ .disconnect,
      fun h => (nomatch congrArg (fun run : ClientRun => run.jobs) h),
      fun h => (nomatch congrArg (fun run : ClientRun => run.jobs) h)⟩).tail
    (.of_tracker_ne
      (@Step.settle _ 0 .unit .disconnect (.disconnect .noticed) none (.ok ()) rfl) nofun)
  have closed :=
    ((disconnected.tail
      (.of_loops_ne (@Step.pursue _ 0 _ _ _ rfl rfl (@Follower.Step.subscribed _ _ 2 rfl
        (.ok "feed-1"))) nofun)).tail
      (.of_loops_ne (@Step.pursue _ 0 _ _ _ rfl rfl (@Follower.Step.closed _ _ "feed-1" false rfl))
        nofun)).tail
      (.of_loops_ne (@Step.pursue _ 0 _ _ _ rfl rfl (Follower.Step.see rfl rfl)) nofun)
  obtain ⟨hclosed, -⟩ := @stream_follows_session _ _ _ 0 _ _ closed rfl rfl rfl rfl rfl
  obtain ⟨hinactive, -, -⟩ := hclosed rfl
  exact ⟨_, _, _, closed, rfl, rfl, rfl, rfl, rfl, rfl, hinactive, rfl⟩

end ClientRun
end VpnFleet
