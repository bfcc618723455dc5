import VpnFleet.Proofs.Traffic.Phases

/-!
# Where the counters come from

The counters that a live stream shows are those of one sample: the last one
that the forwarder of the present generation received. A forwarder of an
earlier generation may go on receiving for as long as it likes and never
reaches the stream again.

* `Flowing` follows the samples from the backend to the forwarders: each
  forwarder receives what its own channel took in, in that order. A new
  activation begins with nothing taken in, since no generation comes twice.
* `Latest` is the invariant of the counters.
-/

namespace VpnFleet

/-- The event moves no sample of the subscription. -/
structure StreamEvent.Spares (event : StreamEvent) (generation : Nat) : Prop where
  pushed : event.pushed? generation = none
  received : event.received? generation = none

namespace StreamHistory

variable {past : StreamHistory} {event : StreamEvent} {generation : Nat}

theorem received_of_spares (h : event.Spares generation) :
    received (past ++ [event]) generation = past.received generation := by
  rw [received_concat, h.received]
  exact List.append_nil _

theorem pushed_of_spares (h : event.Spares generation) :
    pushed (past ++ [event]) generation = past.pushed generation := by
  rw [pushed_concat, h.pushed]
  exact List.append_nil _

end StreamHistory

namespace StreamEvent

theorem push_spares
    {source generation : Nat} (hne : generation ≠ source) (record : TrafficRecord) (taken : Bool) :
    (push source record taken).Spares generation where
  pushed := by
    cases taken with
    | true => exact if_neg hne.symm
    | false => rfl
  received := rfl

theorem receive_spares
    {source generation : Nat} (hne : generation ≠ source) (record : TrafficRecord) :
    (receive source record).Spares generation where
  pushed := rfl
  received := if_neg hne.symm

end StreamEvent

namespace Subscription

variable {s : Subscription} {past : StreamHistory} {event : StreamEvent}

/-- What was received, and then what still waits, is what was taken in, or the beginning of it
once the forwarder has gone. -/
structure Fifo (s : Subscription) (past : StreamHistory) : Prop where
  whole : s.channel.receiving = true →
    past.received s.generation ++ s.channel.queue = past.pushed s.generation
  part : past.received s.generation ++ s.channel.queue <+: past.pushed s.generation

theorem Fifo.concat (h : s.Fifo past) (hspares : event.Spares s.generation) :
    s.Fifo (past ++ [event]) := by
  constructor
  · rw [StreamHistory.received_of_spares hspares, StreamHistory.pushed_of_spares hspares]
    exact h.whole
  · rw [StreamHistory.received_of_spares hspares, StreamHistory.pushed_of_spares hspares]
    exact h.part

theorem Fifo.received_le (h : s.Fifo past) :
    past.received s.generation <+: past.pushed s.generation :=
  (List.prefix_append _ _).trans h.part

theorem Fifo.close (h : s.Fifo past) : s.close.Fifo past where
  whole := nofun
  part := by
    have hreceived : past.received s.generation ++ [] <+: past.pushed s.generation := by
      rw [List.append_nil]
      exact h.received_le
    exact hreceived

theorem Fifo.settle (h : s.Fifo past) (outcome : Subscribed) : (s.settle outcome).Fifo past := by
  cases outcome with
  | installed => exact ⟨h.whole, h.part⟩
  | late => exact h.close
  | refused => exact h.close

theorem Fifo.push
    (h : s.Fifo past)
    {channel : Channel TrafficRecord} {record : TrafficRecord} {taken : Bool}
    (offered : s.channel.offer record = (channel, taken)) :
    Fifo { s with channel } (past ++ [.push s.generation record taken]) := by
  have hreceived :
      StreamHistory.received (past ++ [.push s.generation record taken]) s.generation
        = past.received s.generation := by
    rw [StreamHistory.received_concat]
    exact List.append_nil _
  rcases Channel.offer_cases offered with ⟨rfl, hreceiving, rfl⟩ | ⟨rfl, rfl⟩
  · -- the sample goes to the end of the queue and to the end of what was taken in
    have hpushed :
        StreamHistory.pushed (past ++ [.push s.generation record true]) s.generation
          = past.pushed s.generation ++ [record] := by
      rw [StreamHistory.pushed_concat]
      exact congrArg (past.pushed s.generation ++ Option.toList ·) (if_pos rfl)
    have hwhole : past.received s.generation ++ (s.channel.queue ++ [record])
        = past.pushed s.generation ++ [record] := by
      rw [← List.append_assoc, h.whole hreceiving]
    constructor
    · intro _
      rw [hreceived, hpushed]
      exact hwhole
    · rw [hreceived, hpushed]
      exact ⟨[], (List.append_nil _).trans hwhole⟩
  · have hpushed :
        StreamHistory.pushed (past ++ [.push s.generation record false]) s.generation
          = past.pushed s.generation := by
      rw [StreamHistory.pushed_concat]
      exact List.append_nil _
    constructor
    · rw [hreceived, hpushed]
      exact h.whole
    · rw [hreceived, hpushed]
      exact h.part

theorem Fifo.receive
    (h : s.Fifo past)
    {channel : Channel TrafficRecord} {record : TrafficRecord}
    (taken : s.channel.receive = (channel, .item record)) :
    Fifo { s with channel } (past ++ [.receive s.generation record]) := by
  obtain ⟨hqueue, -, hreceiving⟩ := Channel.receive_eq_item taken
  have hpushed :
      StreamHistory.pushed (past ++ [.receive s.generation record]) s.generation
        = past.pushed s.generation := by
    rw [StreamHistory.pushed_concat]
    exact List.append_nil _
  have hmoved :
      StreamHistory.received (past ++ [.receive s.generation record]) s.generation
          ++ channel.queue
        = past.received s.generation ++ s.channel.queue := by
    have hlast : StreamEvent.received? s.generation (.receive s.generation record)
        = some record :=
      if_pos rfl
    rw [StreamHistory.received_concat, hlast, hqueue, List.append_assoc]
    rfl
  constructor
  · intro hopen
    rw [hpushed]
    exact hmoved.trans (h.whole (hreceiving.symm.trans hopen))
  · have hpart := h.part
    rw [← hmoved, ← hpushed] at hpart
    exact hpart

end Subscription

namespace StreamRun

variable {run next : StreamRun} {event : StreamEvent}

structure Flowing (run : StreamRun) : Prop where
  fifo : ∀ s ∈ run.subscriptions, s.Fifo run.past
  unread : ∀ s ∈ run.subscriptions, s.stage = .asked → run.past.received s.generation = []
  /-- Nothing has reached a generation that has no subscription. -/
  unknown : ∀ generation, generation ∉ run.subscriptions.map Subscription.generation →
    run.past.received generation = [] ∧ run.past.pushed generation = []

theorem flowing_new : new.Flowing where
  fifo := fun s hs => by cases hs
  unread := fun s hs => by cases hs
  unknown := fun _ _ => ⟨rfl, rfl⟩

theorem Flowing.received_le (h : run.Flowing) (generation : Nat) :
    run.past.received generation <+: run.past.pushed generation := by
  by_cases hknown : generation ∈ run.subscriptions.map Subscription.generation
  · obtain ⟨s, hs, rfl⟩ := List.mem_map.1 hknown
    exact (h.fifo s hs).received_le
  · rw [(h.unknown generation hknown).1]
    exact List.nil_prefix

/-- A step that moves no sample keeps the flow, if the subscriptions stay as they are. -/
theorem Flowing.keep
    (h : run.Flowing)
    (hsubscriptions : next.subscriptions = run.subscriptions)
    (hpast : next.past = run.past ++ [event])
    (hspares : ∀ generation, event.Spares generation) :
    next.Flowing := by
  constructor
  case fifo =>
    intro s hs
    rw [hsubscriptions] at hs
    rw [hpast]
    exact (h.fifo s hs).concat (hspares _)
  case unread =>
    intro s hs hasked
    rw [hsubscriptions] at hs
    rw [hpast, StreamHistory.received_of_spares (hspares _)]
    exact h.unread s hs hasked
  case unknown =>
    intro generation hunknown
    rw [hsubscriptions] at hunknown
    rw [hpast, StreamHistory.received_of_spares (hspares _),
      StreamHistory.pushed_of_spares (hspares _)]
    exact h.unknown generation hunknown

/-- A step of one subscription moves no sample of the others. -/
theorem Flowing.set
    (h : run.Flowing)
    (coherent : run.Coherent)
    {i : Nat} {s : Subscription}
    (found : run.subscriptions[i]? = some s)
    (after : Subscription)
    (hsame : after.generation = s.generation)
    (hsubscriptions : next.subscriptions = run.subscriptions.set i after)
    (hpast : next.past = run.past ++ [event])
    (hspares : ∀ generation, generation ≠ s.generation → event.Spares generation)
    (hfifo : after.Fifo next.past)
    (hunread : after.stage = .asked → next.past.received s.generation = []) :
    next.Flowing := by
  have hmem : s ∈ run.subscriptions := List.mem_of_getElem? found
  have hcases : ∀ other ∈ next.subscriptions,
      other = after ∨ (other ∈ run.subscriptions ∧ other.generation ≠ s.generation) := by
    intro other hother
    rw [hsubscriptions] at hother
    by_cases hkey : other.generation = s.generation
    · exact Or.inl (Keyed.eq_of_mem_set coherent.distinct found hsame hother hkey)
    · rcases List.mem_or_eq_of_mem_set hother with hold | rfl
      · exact Or.inr ⟨hold, hkey⟩
      · exact absurd hsame hkey
  constructor
  case fifo =>
    intro other hother
    rcases hcases other hother with rfl | ⟨hold, hkey⟩
    · exact hfifo
    · rw [hpast]
      exact (h.fifo other hold).concat (hspares _ hkey)
  case unread =>
    intro other hother hasked
    rcases hcases other hother with rfl | ⟨hold, hkey⟩
    · rw [hsame]
      exact hunread hasked
    · rw [hpast, StreamHistory.received_of_spares (hspares _ hkey)]
      exact h.unread other hold hasked
  case unknown =>
    intro generation hunknown
    rw [hsubscriptions, Keyed.map_set_eq found hsame] at hunknown
    have hkey : generation ≠ s.generation := by
      rintro rfl
      exact hunknown (List.mem_map_of_mem hmem)
    rw [hpast, StreamHistory.received_of_spares (hspares _ hkey),
      StreamHistory.pushed_of_spares (hspares _ hkey)]
    exact h.unknown generation hunknown

/-- The end of a forwarder moves no sample. -/
theorem Flowing.close
    (h : run.Flowing)
    (coherent : run.Coherent)
    {i : Nat} {s : Subscription}
    (found : run.subscriptions[i]? = some s)
    (hsubscriptions : next.subscriptions = run.subscriptions.set i s.close)
    (hpast : next.past = run.past ++ [event])
    (hspares : ∀ generation, event.Spares generation) :
    next.Flowing := by
  have hfifo := (h.fifo s (List.mem_of_getElem? found)).concat (hspares s.generation)
  rw [← hpast] at hfifo
  exact h.set coherent found s.close rfl hsubscriptions hpast
    (fun generation _ => hspares generation) hfifo.close nofun

/-- A generation that no subscription has begins with nothing taken in. -/
theorem Flowing.activate
    (h : run.Flowing)
    {generation capacity : Nat}
    (hsubscriptions : next.subscriptions = run.subscriptions
      ++ [{ generation, channel := Channel.new capacity, stage := .asked }])
    (hpast : next.past = run.past ++ [event])
    (hfresh : generation ∉ run.subscriptions.map Subscription.generation)
    (hspares : ∀ other, event.Spares other) :
    next.Flowing := by
  have hreceived (other : Nat) : next.past.received other = run.past.received other := by
    rw [hpast]
    exact StreamHistory.received_of_spares (hspares other)
  have hpushed (other : Nat) : next.past.pushed other = run.past.pushed other := by
    rw [hpast]
    exact StreamHistory.pushed_of_spares (hspares other)
  obtain ⟨hunread, hempty⟩ := h.unknown generation hfresh
  constructor
  case fifo =>
    intro s hs
    rw [hsubscriptions] at hs
    rcases List.mem_append.1 hs with hold | hnew
    · rw [hpast]
      exact (h.fifo s hold).concat (hspares _)
    · obtain rfl := List.mem_singleton.1 hnew
      have hnothing : next.past.received generation ++ [] = next.past.pushed generation := by
        rw [hreceived, hpushed, hunread, hempty]
        rfl
      exact ⟨fun _ => hnothing, ⟨[], (List.append_nil _).trans hnothing⟩⟩
  case unread =>
    intro s hs hasked
    rw [hsubscriptions] at hs
    rw [hreceived]
    rcases List.mem_append.1 hs with hold | hnew
    · exact h.unread s hold hasked
    · obtain rfl := List.mem_singleton.1 hnew
      exact hunread
  case unknown =>
    intro other hunknown
    rw [hsubscriptions, List.map_append] at hunknown
    rw [hreceived, hpushed]
    exact h.unknown other fun hold => hunknown (List.mem_append_left _ hold)

theorem Flowing.step
    (h : run.Flowing) (coherent : run.Coherent) (step : Step run next) : next.Flowing := by
  cases step with
  | @activate capacity stream generation began =>
    obtain ⟨-, hahead, -⟩ := Stream.beginActivate_eq_some began
    have hfresh : generation ∉ run.subscriptions.map Subscription.generation := by
      intro hmem
      obtain ⟨s, hs, rfl⟩ := List.mem_map.1 hmem
      have hle : s.generation ≤ run.stream.snapshot.generation := coherent.bounded s hs
      omega
    exact h.activate rfl rfl hfresh fun _ => ⟨rfl, rfl⟩
  | passActivate passed => exact h.keep rfl rfl fun _ => ⟨rfl, rfl⟩
  | @settleActivate answer i s stream outcome found asked settled =>
    have hfifo := h.fifo s (List.mem_of_getElem? found)
    exact h.set coherent found (s.settle outcome) (s.settle_generation outcome) rfl rfl
      (fun _ _ => ⟨rfl, rfl⟩) ((hfifo.concat ⟨rfl, rfl⟩).settle outcome)
      fun hstage => absurd hstage (s.settle_stage_ne_asked outcome)
  | abandonActivate found asked => exact h.close coherent found rfl rfl fun _ => ⟨rfl, rfl⟩
  | deactivate cleared => exact h.keep rfl rfl fun _ => ⟨rfl, rfl⟩
  | answerUnsubscribe feed answer issued => exact h.keep rfl rfl fun _ => ⟨rfl, rfl⟩
  | @push record i s channel taken found offered =>
    have hmem : s ∈ run.subscriptions := List.mem_of_getElem? found
    refine h.set coherent found { s with channel } rfl rfl rfl
      (fun _ hne => StreamEvent.push_spares hne _ _) ((h.fifo s hmem).push offered) ?_
    intro hasked
    have hreceived :
        StreamHistory.received (run.past ++ [.push s.generation record taken]) s.generation
          = run.past.received s.generation := by
      rw [StreamHistory.received_concat]
      exact List.append_nil _
    exact hreceived.trans (h.unread s hmem hasked)
  | @finish i s found =>
    have hmem : s ∈ run.subscriptions := List.mem_of_getElem? found
    have hspares : (StreamEvent.finish s.generation).Spares s.generation := ⟨rfl, rfl⟩
    have hfifo := (h.fifo s hmem).concat hspares
    refine h.set coherent found { s with channel := s.channel.finish } rfl rfl rfl
      (fun _ _ => ⟨rfl, rfl⟩) ⟨hfifo.whole, hfifo.part⟩ ?_
    intro hasked
    have hreceived :
        StreamHistory.received (run.past ++ [.finish s.generation]) s.generation
          = run.past.received s.generation :=
      StreamHistory.received_of_spares hspares
    exact hreceived.trans (h.unread s hmem hasked)
  | @receive i s feed channel record stream goesOn found forwarded taken received =>
    have hfifo := (h.fifo s (List.mem_of_getElem? found)).receive taken
    have hread := Subscription.stage_ne_asked_of_forwarded forwarded
    refine h.set coherent found _ ?_ rfl rfl
      (fun _ hne => StreamEvent.receive_spares hne _) ?_ ?_
    · cases goesOn <;> rfl
    · cases goesOn with
      | true => exact hfifo
      | false => exact hfifo.close
    · intro hasked
      cases goesOn with
      | true => exact absurd hasked hread
      | false => cases hasked
  | feedEnded found forwarded ended => exact h.close coherent found rfl rfl fun _ => ⟨rfl, rfl⟩
  | stopForwarder found forwarded givenUp => exact h.close coherent found rfl rfl fun _ => ⟨rfl, rfl⟩
  | retire => exact h.keep rfl rfl fun _ => ⟨rfl, rfl⟩

theorem Reached.flowing (reached : Reached run) : run.Flowing := by
  induction reached with
  | refl => exact flowing_new
  | tail reached step ih => exact ih.step (Reached.coherent reached) step

/-- While the stream is active, its counters are those of the last sample that the forwarder of
its generation received. -/
def Latest (run : StreamRun) : Prop :=
  run.alive = true → run.status = .active →
    run.stream.snapshot.traffic
      = (run.past.received run.generation).getLast?.map Traffic.ofRecord

theorem Latest.keep
    (h : run.Latest)
    (hstream : next.stream = run.stream)
    (halive : next.alive = run.alive)
    (hpast : next.past = run.past ++ [event])
    (hspares : run.alive = true → run.status = .active →
      event.received? run.generation = none) :
    next.Latest := by
  intro hlive hactive
  rw [halive] at hlive
  unfold status at hactive
  rw [hstream] at hactive
  have hreceived : next.past.received next.generation = run.past.received run.generation := by
    have hgeneration : next.generation = run.generation := by
      unfold generation
      rw [hstream]
    rw [hgeneration, hpast, StreamHistory.received_concat, hspares hlive hactive]
    exact List.append_nil _
  rw [hstream, hreceived]
  exact h hlive hactive

theorem latest_of_status_ne
    {status : StreamStatus} (hstatus : next.status = status) (hne : status ≠ .active) :
    next.Latest := by
  intro _ hactive
  exact absurd (hstatus.symm.trans hactive) hne

theorem Latest.step
    (h : run.Latest)
    (coherent : run.Coherent)
    (flowing : run.Flowing)
    (step : Step run next) :
    next.Latest := by
  cases step with
  | activate capacity began =>
    obtain ⟨-, -, hsnapshot, -⟩ := Stream.beginActivate_eq_some began
    exact latest_of_status_ne (congrArg StreamSnapshot.status hsnapshot) nofun
  | passActivate passed =>
    obtain ⟨-, rfl⟩ := Stream.beginActivate_eq_none passed
    exact h.keep rfl rfl rfl fun _ _ => rfl
  | @settleActivate answer i s stream outcome found asked settled =>
    rcases Stream.settleActivate_cases settled with
      ⟨feed, rfl, -, -, hcurrent, hopening, hsnapshot, -⟩ | ⟨feed, rfl, -, -, rfl⟩
        | ⟨message, rfl, -, -, hsnapshot, -⟩ | ⟨message, rfl, -, -, rfl⟩
    · -- nothing was received yet, and an opening stream shows no counters
      intro _ _
      have hidle : run.status ≠ .active := by
        rw [show run.status = .opening from hopening]
        exact nofun
      have hunread := flowing.unread s (List.mem_of_getElem? found) asked
      have hgeneration : stream.snapshot.generation = s.generation :=
        (congrArg StreamSnapshot.generation hsnapshot).trans hcurrent
      have htraffic : stream.snapshot.traffic = none :=
        (congrArg StreamSnapshot.traffic hsnapshot).trans (coherent.quiet hidle)
      have hreceived :
          StreamHistory.received
            (run.past ++ [.settleActivate s.generation
              (.installed { feed, generation := s.generation })]) stream.snapshot.generation
            = [] := by
        rw [StreamHistory.received_of_spares ⟨rfl, rfl⟩, hgeneration]
        exact hunread
      show stream.snapshot.traffic = _
      rw [htraffic]
      exact (congrArg (fun received => received.getLast?.map Traffic.ofRecord) hreceived).symm
    · exact h.keep rfl rfl rfl fun _ _ => rfl
    · exact latest_of_status_ne (congrArg StreamSnapshot.status hsnapshot) nofun
    · exact h.keep rfl rfl rfl fun _ _ => rfl
  | deactivate cleared =>
    obtain ⟨hsnapshot, -, -⟩ := Stream.deactivate_eq cleared
    exact latest_of_status_ne (congrArg StreamSnapshot.status hsnapshot) nofun
  | @push record i s channel taken found offered =>
    exact h.keep rfl rfl rfl fun _ _ => rfl
  | @receive i s feed channel record stream goesOn found forwarded taken received =>
    rcases Stream.receive_cases received with
      ⟨-, -, hcurrent, -, hsnapshot, -⟩ | ⟨-, hstale, rfl⟩
    · intro _ _
      have hgeneration : stream.snapshot.generation = s.generation :=
        (congrArg StreamSnapshot.generation hsnapshot).trans hcurrent
      have hlast : StreamEvent.received? s.generation (.receive s.generation record)
          = some record :=
        if_pos rfl
      have hreceived :
          StreamHistory.received (run.past ++ [.receive s.generation record])
              stream.snapshot.generation
            = run.past.received s.generation ++ [record] := by
        rw [hgeneration, StreamHistory.received_concat, hlast]
        rfl
      have hshown :
          (StreamHistory.received (run.past ++ [.receive s.generation record])
              stream.snapshot.generation).getLast?.map Traffic.ofRecord
            = some (Traffic.ofRecord record) := by
        rw [hreceived, List.getLast?_concat]
        rfl
      exact (congrArg StreamSnapshot.traffic hsnapshot).trans hshown.symm
    · refine h.keep rfl rfl rfl fun hlive hactive => if_neg ?_
      intro hsame
      exact hstale ⟨hlive, hsame.symm, hactive⟩
  | @feedEnded i s feed channel found forwarded ended =>
    rcases Stream.feedEnded_cases run.stream run.alive s.generation with
      ⟨-, -, -, hsnapshot, -⟩ | ⟨-, hsame⟩
    · exact latest_of_status_ne (congrArg StreamSnapshot.status hsnapshot) nofun
    · exact h.keep hsame rfl rfl fun _ _ => rfl
  | retire =>
    intro hlive
    cases hlive
  | _ => exact h.keep rfl rfl rfl fun _ _ => rfl

theorem Reached.latest (reached : Reached run) : run.Latest := by
  induction reached with
  | refl => exact latest_of_status_ne rfl nofun
  | tail reached step ih =>
    exact ih.step (Reached.coherent reached) (Reached.flowing reached) step

/-- The counters are those of the last sample that came from the feed of the present activation,
and no sample of an earlier feed ever reaches the stream again. -/
theorem counters_come_from_the_present_feed
    (reached : Reached run) (halive : run.alive = true) :
    (∀ traffic, run.stream.snapshot.traffic = some traffic →
      run.Installed
        ∧ ∃ record,
          (run.past.received run.generation).getLast? = some record
            ∧ traffic = Traffic.ofRecord record
            ∧ traffic.Shows record
            ∧ run.past.received run.generation <+: run.past.pushed run.generation)
      ∧ ∀ earlier, earlier < run.generation →
        ∀ later, Relation.ReflTransGen Step run later →
          ∀ record, later.stream.receive later.alive earlier record = (later.stream, false) := by
  have coherent := reached.coherent
  refine ⟨?_, ?_⟩
  · intro traffic hshown
    have hactive : run.status = .active := by
      by_contra hidle
      rw [coherent.quiet hidle] at hshown
      cases hshown
    have hlast := reached.latest halive hactive
    rw [hshown] at hlast
    obtain ⟨record, hrecord, htraffic⟩ := Option.map_eq_some_iff.1 hlast.symm
    have hshows : traffic.Shows record := htraffic ▸ Traffic.shows_ofRecord record
    exact ⟨coherent.held hactive, record, hrecord, htraffic.symm, hshows,
      reached.flowing.received_le _⟩
  · intro earlier hearlier later path record
    have hle := generation_le_of_path path
    have hstale : later.stream.snapshot.generation ≠ earlier :=
      Nat.ne_of_gt (Nat.lt_of_lt_of_le hearlier hle)
    exact Stream.receive_of_stale hstale _ _

theorem earlier_feed_delivers_in_vain :
    ∃ run late, Reached run ∧ run.alive = true
      ∧ .answerUnsubscribe "feed-1" (.error "timed out") ∈ run.past
      ∧ run.past.getLast? = some (.receive 1 late)
      ∧ run.past.pushed 1 = [late]
      ∧ run.past.pushed 3 = [⟨1, 2, 3, 4, 0.5, -1.0⟩]
      ∧ run.stream.active = some ⟨"feed-2", 3⟩
      ∧ run.stream.snapshot.traffic = some ⟨1, 2, 3, 4, 0.5, 0.0⟩
      ∧ run.Installed
      ∧ ∀ record, run.stream.receive run.alive 1 record = (run.stream, false) := by
  have installed : Reached _ :=
    (Relation.ReflTransGen.refl.tail (@Step.activate new 4 _ _ rfl)).tail
      (@Step.settleActivate _ (.ok "feed-1") 0 _ _ _ rfl rfl rfl)
  have givenUp := (installed.tail (@Step.deactivate _ _ _ rfl)).tail
    (Step.answerUnsubscribe _ "feed-1" (.error "timed out") (by decide))
  have replaced := (givenUp.tail (@Step.activate _ 4 _ _ rfl)).tail
    (@Step.settleActivate _ (.ok "feed-2") 1 _ _ _ rfl rfl rfl)
  have shown := (replaced.tail (@Step.push _ ⟨1, 2, 3, 4, 0.5, -1.0⟩ 1 _ _ _ rfl rfl)).tail
    (@Step.receive _ 1 _ "feed-2" _ _ _ _ rfl rfl rfl rfl)
  have reached := (shown.tail (@Step.push _ ⟨5, 6, 7, 8, 0.0, 0.0⟩ 0 _ _ _ rfl rfl)).tail
    (@Step.receive _ 0 _ "feed-1" _ _ _ _ rfl rfl rfl rfl)
  obtain ⟨hfresh, hlate⟩ := counters_come_from_the_present_feed reached rfl
  obtain ⟨hinstalled, -⟩ := hfresh _ rfl
  refine ⟨_, ⟨5, 6, 7, 8, 0.0, 0.0⟩, reached, rfl, ?_, rfl, rfl, rfl, rfl, rfl, hinstalled, ?_⟩
  · simp [note, new]
  · exact hlate 1 (by decide) _ Relation.ReflTransGen.refl

end StreamRun
end VpnFleet
