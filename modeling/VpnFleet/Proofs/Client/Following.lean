import VpnFleet.Proofs.Client.Bystanders
import VpnFleet.Proofs.Traffic.Operations

/-!
# The traffic stream follows the session

As long as nobody turns the stream on or off by hand, it is the follower that
drives it, and the end of a disconnection, which turns it off behind the
follower's back. The tracker may publish several times while the follower waits
for the backend, and the follower sees the last publication only.

* `Client.Aside` says what a step beside the follower may do: it leaves the
  stream, it turns it off together with a publication of the tracker, or it is
  a forwarder's.
* `FollowerStage.Fits` says how the stream and the session stand while the
  follower is at a stage. Steps aside and the follower's own steps keep it.
* A follower that rests and has seen the last publication finds the stream as
  the session asks for.
-/

namespace VpnFleet

namespace Stream

/-- No subscription, no counters, and no installed feed. -/
structure IsIdle (stream : Stream) : Prop where
  status : stream.snapshot.status = .inactive
  traffic : stream.snapshot.traffic = none
  active : stream.active = none

/-- The stream shows a feed, or says why it shows none. -/
def IsResolved (stream : Stream) : Prop :=
  stream.snapshot.status = .active ∨ ∃ message, stream.snapshot.status = .unavailable message

/-- What a forwarder makes of the stream. -/
def Forwards (stream next : Stream) : Prop :=
  next = stream ∨ (stream.snapshot.status = .active ∧ next.IsResolved)

variable {stream next : Stream}

theorem deactivate_isIdle (stream : Stream) : stream.deactivate.1.IsIdle :=
  ⟨rfl, rfl, rfl⟩

theorem IsIdle.status_ne_opening (h : stream.IsIdle) : stream.snapshot.status ≠ .opening := by
  rw [h.status]
  exact nofun

theorem IsResolved.status_ne_opening (h : stream.IsResolved) :
    stream.snapshot.status ≠ .opening := by
  rcases h with hactive | ⟨message, hunavailable⟩
  · rw [hactive]
    exact nofun
  · rw [hunavailable]
    exact nofun

/-- Where no activation is on its way, one begins or the stream shows a feed already. -/
theorem beginActivate_cases (hstatus : stream.snapshot.status ≠ .opening) :
    (∃ generation,
        stream.beginActivate.2 = some generation
          ∧ stream.beginActivate.1.snapshot.status = .opening
          ∧ stream.beginActivate.1.snapshot.generation = generation)
      ∨ (stream.beginActivate = (stream, none) ∧ stream.snapshot.status = .active) := by
  generalize hbegun : stream.beginActivate = begun
  obtain ⟨next, generation⟩ := begun
  cases generation with
  | none =>
    obtain ⟨hengaged, hsame⟩ := beginActivate_eq_none hbegun
    refine Or.inr ⟨by rw [hsame], ?_⟩
    cases hshown : stream.snapshot.status with
    | active => rfl
    | opening => exact absurd hshown hstatus
    | _ => rw [hshown] at hengaged; cases hengaged
  | some generation =>
    obtain ⟨-, -, hopening, -⟩ := beginActivate_eq_some hbegun
    refine Or.inl ⟨generation, rfl, ?_⟩
    rw [hopening]
    exact ⟨rfl, rfl⟩

theorem receive_forwards
    {alive goesOn : Bool} {generation : Nat} {record : TrafficRecord}
    (h : stream.receive alive generation record = (next, goesOn)) :
    stream.Forwards next := by
  rcases receive_cases h with ⟨-, -, -, hactive, hshown, -⟩ | ⟨-, -, hsame⟩
  · refine Or.inr ⟨hactive, Or.inl ?_⟩
    rw [hshown]
    exact hactive
  · exact Or.inl hsame

theorem feedEnded_forwards (stream : Stream) (alive : Bool) (generation : Nat) :
    stream.Forwards (stream.feedEnded alive generation) := by
  rcases feedEnded_cases stream alive generation with ⟨-, -, hactive, hshown, -⟩ | ⟨-, hsame⟩
  · refine Or.inr ⟨hactive, Or.inr ⟨"metrics feed closed", ?_⟩⟩
    rw [hshown]
    rfl
  · exact Or.inl hsame

end Stream

/-- One step of a live client beside the follower. -/
inductive Client.Aside (client next : Client) : Prop
  | steady (stream : client.SameStream next) (announces : client.tracker.Announces next.tracker)
  | closed (flags : client.SameFlags next)
      (stream : next.stream = client.stream.deactivate.1)
      (published : client.tracker.version < next.tracker.version)
  | forwarded (flags : client.SameFlags next)
      (tracker : next.tracker = client.tracker)
      (stream : client.stream.Forwards next.stream)

namespace Client.Aside

variable {client next : Client}

theorem sameFlags (aside : client.Aside next) : client.SameFlags next := by
  cases aside with
  | steady stream announces => exact stream.toSameFlags
  | closed flags stream published => exact flags
  | forwarded flags tracker stream => exact flags

/-- Beside the follower nothing turns the stream on. -/
theorem isIdle (aside : client.Aside next) (h : client.stream.IsIdle) : next.stream.IsIdle := by
  cases aside with
  | steady stream announces =>
    rw [stream.stream]
    exact h
  | closed flags stream published =>
    rw [stream]
    exact client.stream.deactivate_isIdle
  | forwarded flags tracker stream =>
    rcases stream with hsame | ⟨hactive, -⟩
    · rw [hsame]
      exact h
    · rw [h.status] at hactive
      cases hactive

end Client.Aside

namespace FollowerStage

/-- How the stream and the session stand while the follower is at a stage, depending on whether it
has seen the last publication of the session. -/
def Fits (stream : Stream) (session : VpnSession) (seen : Prop) : FollowerStage → Prop
  | fresh => stream.IsIdle
  | resting =>
    stream.snapshot.status ≠ .opening
      ∧ (seen → session.isConnected = true → stream.IsResolved)
      ∧ (seen → session.isConnected = false → stream.IsIdle)
  | subscribing generation =>
    (stream.snapshot.status = .opening
        ∧ stream.snapshot.generation = generation
        ∧ (seen → session.isConnected = true))
      -- a disconnection passed it by
      ∨ (stream.IsIdle ∧ generation < stream.snapshot.generation ∧ ¬ seen)
  | closing _ leaving => leaving = false ∧ stream.IsIdle ∧ (seen → session.isConnected = false)
  | ended => False

variable {stage : FollowerStage} {stream next : Stream} {session later : VpnSession}
  {seen seenLater : Prop}

theorem fits_resting_of_isResolved
    (hresolved : stream.IsResolved) (hopen : seen → session.isConnected = true) :
    resting.Fits stream session seen := by
  refine ⟨hresolved.status_ne_opening, fun _ _ => hresolved, ?_⟩
  intro hseen hclosed
  rw [hopen hseen] at hclosed
  cases hclosed

theorem fits_resting_of_isIdle
    (hidle : stream.IsIdle) (hclosed : seen → session.isConnected = false) :
    resting.Fits stream session seen := by
  refine ⟨hidle.status_ne_opening, ?_, fun _ _ => hidle⟩
  intro hseen hopen
  rw [hclosed hseen] at hopen
  cases hopen

/-- Any session will do as long as its publication was not seen. -/
theorem Fits.of_unseen (h : stage.Fits stream session seen) (hunseen : ¬ seenLater) :
    stage.Fits stream later seenLater := by
  cases stage with
  | fresh => exact h
  | resting => exact ⟨h.1, fun hseen => absurd hseen hunseen, fun hseen => absurd hseen hunseen⟩
  | subscribing generation =>
    rcases h with ⟨hopening, hgeneration, -⟩ | ⟨hidle, hpassed, -⟩
    · exact Or.inl ⟨hopening, hgeneration, fun hseen => absurd hseen hunseen⟩
    · exact Or.inr ⟨hidle, hpassed, hunseen⟩
  | closing feed leaving => exact ⟨h.1, h.2.1, fun hseen => absurd hseen hunseen⟩
  | ended => exact h

theorem Fits.deactivate (h : stage.Fits stream session seen) (hunseen : ¬ seenLater) :
    stage.Fits stream.deactivate.1 later seenLater := by
  have hidle := stream.deactivate_isIdle
  cases stage with
  | fresh => exact hidle
  | resting => exact fits_resting_of_isIdle hidle fun hseen => absurd hseen hunseen
  | subscribing generation =>
    have hpassed : generation < stream.snapshot.generation + 1 := by
      rcases h with ⟨-, hgeneration, -⟩ | ⟨-, hpassed, -⟩ <;> omega
    exact Or.inr ⟨hidle, hpassed, hunseen⟩
  | closing feed leaving => exact ⟨h.1, hidle, fun hseen => absurd hseen hunseen⟩
  | ended => exact h

/-- A forwarder has something to do only while a feed is shown, and then the follower rests. -/
theorem Fits.forward (h : stage.Fits stream session seen) (forwards : stream.Forwards next) :
    stage.Fits next session seen := by
  rcases forwards with hsame | ⟨hactive, hresolved⟩
  · rw [hsame]
    exact h
  have hbusy : ¬ stream.IsIdle := by
    intro hidle
    rw [hidle.status] at hactive
    cases hactive
  cases stage with
  | fresh => exact absurd h hbusy
  | resting =>
    obtain ⟨-, -, hclosed⟩ := h
    exact ⟨hresolved.status_ne_opening, fun _ _ => hresolved,
      fun hseen hdisconnected => absurd (hclosed hseen hdisconnected) hbusy⟩
  | subscribing generation =>
    rcases h with ⟨hopening, -, -⟩ | ⟨hidle, -, -⟩
    · rw [hactive] at hopening
      cases hopening
    · exact absurd hidle hbusy
  | closing feed leaving => exact absurd h.2.1 hbusy
  | ended => exact h

end FollowerStage

namespace Follower

/-- The follower saw no stop, and the stream is where it left it or a publication is due. -/
structure Tracks (follower : Follower) (client : Client) : Prop where
  stopSeen : follower.stopSeen = client.stopping.version
  sessionSeen : follower.sessionSeen ≤ client.tracker.version
  fits : follower.stage.Fits client.stream client.tracker.session
    (follower.sessionSeen = client.tracker.version)

variable {follower : Follower} {client next : Client} {turn : FollowerTurn}

theorem Tracks.aside (h : follower.Tracks client) (aside : client.Aside next) :
    follower.Tracks next := by
  have hbound := h.sessionSeen
  have hstop : follower.stopSeen = next.stopping.version := by
    rw [aside.sameFlags.stopping]
    exact h.stopSeen
  cases aside with
  | steady stream announces =>
    refine ⟨hstop, Nat.le_trans hbound announces.version_le, ?_⟩
    rw [stream.stream]
    rcases announces with ⟨hversion, hsession⟩ | hpublished
    · rw [hversion, hsession]
      exact h.fits
    · exact h.fits.of_unseen (by omega)
  | closed flags stream published =>
    refine ⟨hstop, by omega, ?_⟩
    rw [stream]
    exact h.fits.deactivate (by omega)
  | forwarded flags tracker stream =>
    refine ⟨hstop, ?_, ?_⟩ <;> rw [tracker]
    · exact hbound
    · exact h.fits.forward stream

theorem activate_tracks
    (hstop : follower.stopSeen = client.stopping.version)
    (hseen : follower.sessionSeen = client.tracker.version)
    (hopen : client.tracker.session.isConnected = true)
    (hstatus : client.stream.snapshot.status ≠ .opening) :
    (follower.activate client).follower.Tracks (follower.activate client).client := by
  have hbound := Nat.le_of_eq hseen
  unfold activate
  rcases Stream.beginActivate_cases hstatus with
    ⟨generation, hnext, hopening, hgeneration⟩ | ⟨hsame, hactive⟩
  · generalize client.stream.beginActivate = begun at hnext hopening hgeneration ⊢
    obtain ⟨stream, next⟩ := begun
    obtain rfl : next = some generation := hnext
    exact ⟨hstop, hbound, Or.inl ⟨hopening, hgeneration, fun _ => hopen⟩⟩
  · rw [hsame]
    have hresolved : client.stream.IsResolved := Or.inl hactive
    exact ⟨hstop, hbound, FollowerStage.fits_resting_of_isResolved hresolved fun _ => hopen⟩

theorem deactivate_tracks
    (hstop : follower.stopSeen = client.stopping.version)
    (hseen : follower.sessionSeen = client.tracker.version)
    (hclosed : client.tracker.session.isConnected = false) :
    (follower.deactivate client false).follower.Tracks
      (follower.deactivate client false).client := by
  have hbound := Nat.le_of_eq hseen
  have hidle := client.stream.deactivate_isIdle
  unfold deactivate
  split
  · next stream active hgiven =>
      rw [hgiven] at hidle
      exact ⟨hstop, hbound, rfl, hidle, fun _ => hclosed⟩
  · next stream hgiven =>
      rw [hgiven] at hidle
      exact ⟨hstop, hbound, FollowerStage.fits_resting_of_isIdle hidle fun _ => hclosed⟩

/-- A look at the session turns the stream on or off as the session asks for. -/
theorem look_tracks
    (hrunning : client.isStopping = false)
    (hstop : follower.stopSeen = client.stopping.version)
    (hstatus : client.stream.snapshot.status ≠ .opening) :
    (follower.look client).follower.Tracks (follower.look client).client := by
  unfold look
  rw [hrunning]
  cases hsession : client.tracker.session.isConnected with
  | true => exact activate_tracks hstop rfl hsession hstatus
  | false => exact deactivate_tracks hstop rfl hsession

/-- An answered subscription shows its feed or says why there is none, unless a disconnection
passed it by. -/
theorem onSubscribed_tracks
    {generation : Nat} (h : follower.Tracks client) (halive : client.alive = true)
    (hstage : follower.stage = .subscribing generation) (answer : Except String String) :
    (follower.onSubscribed client generation answer).follower.Tracks
      (follower.onSubscribed client generation answer).client := by
  obtain ⟨hstop, hbound, hfits⟩ := h
  rw [hstage] at hfits
  unfold onSubscribed
  dsimp only
  generalize hsettled : client.stream.settleActivate client.alive generation answer = settled
  obtain ⟨stream, outcome⟩ := settled
  rcases Stream.settleActivate_cases hsettled with
    ⟨feed, rfl, -, -, hgeneration, -, hshown, -⟩
    | ⟨feed, rfl, -, hpassed, rfl⟩
    | ⟨message, rfl, -, hgeneration, hshown, -⟩
    | ⟨message, rfl, -, hpassed, rfl⟩
  · rcases hfits with ⟨-, -, hconnected⟩ | ⟨-, hlater, -⟩
    · have hresolved : stream.IsResolved := Or.inl (by rw [hshown])
      exact ⟨hstop, hbound, FollowerStage.fits_resting_of_isResolved hresolved hconnected⟩
    · omega
  · rcases hfits with ⟨hopening, hgeneration, -⟩ | ⟨hidle, -, hunseen⟩
    · exact absurd ⟨halive, hgeneration, hopening⟩ hpassed
    · exact ⟨hstop, hbound, rfl, hidle, fun hseen => absurd hseen hunseen⟩
  · rcases hfits with ⟨-, -, hconnected⟩ | ⟨-, hlater, -⟩
    · have hresolved : stream.IsResolved := Or.inr ⟨message, by rw [hshown]⟩
      exact ⟨hstop, hbound, FollowerStage.fits_resting_of_isResolved hresolved hconnected⟩
    · omega
  · rcases hfits with ⟨-, hgeneration, -⟩ | ⟨hidle, -, hunseen⟩
    · exact absurd hgeneration hpassed
    · refine ⟨hstop, hbound, FollowerStage.fits_resting_of_isIdle hidle ?_⟩
      exact fun hseen => absurd hseen hunseen

theorem Step.tracks
    (step : follower.Step client turn) (h : follower.Tracks client)
    (halive : client.alive = true) (hrunning : client.isStopping = false) :
    turn.follower.Tracks turn.client := by
  have hfits := h.fits
  cases step with
  | begin fresh =>
    rw [fresh] at hfits
    exact look_tracks hrunning h.stopSeen hfits.status_ne_opening
  | stop resting due =>
    rw [stopDue, h.stopSeen] at due
    simp at due
  | see resting due =>
    rw [resting] at hfits
    exact look_tracks hrunning h.stopSeen hfits.1
  | subscribed subscribing answer => exact onSubscribed_tracks h halive subscribing answer
  | closed closing =>
    rw [closing] at hfits
    obtain ⟨rfl, hidle, hclosed⟩ := hfits
    exact ⟨h.stopSeen, h.sessionSeen, FollowerStage.fits_resting_of_isIdle hidle hclosed⟩

end Follower
end VpnFleet
