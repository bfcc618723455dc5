import VpnFleet.Proofs.Helper.Feeds
import VpnFleet.Proofs.History

/-!
# What a feed delivers

The receiver of a feed obtains the sample that opened it and then the samples
that its sampler took with success, in this order and each one once.

* `Feed.Delivers` is what holds of a feed since it was opened. The samples are
  those that were received, then those in the channel, then at most one that
  waits for room. Only a sample that waited when the feed was closed is lost,
  and what waits in the channel when the receiver goes.
* `Feed.Delivers.move` says that every event keeps this, and
  `TransportRun.Delivering` carries it through a run, for all feeds at once.
-/

namespace VpnFleet
namespace Feed

variable {registered : List String} {event : TransportEvent} {feed next : Feed} {buffer : Nat}
  {first : TrafficRecord} {since : TransportHistory}

/-- What was taken for the feed since it was opened was received, or waits in the channel or for
room in it. -/
structure Delivers
    (feed : Feed) (buffer : Nat) (first : TrafficRecord) (since : TransportHistory) : Prop where
  part : since.received feed.id ++ feed.channel.queue <+: first :: since.samples feed.id
  whole : feed.channel.receiving = true →
    ∃ unsent : Option TrafficRecord,
      first :: since.samples feed.id
          = since.received feed.id ++ feed.channel.queue ++ unsent.toList
        ∧ (unsent = feed.held?
            ∨ feed.sampler = .ended ∧ TransportEvent.unsubscribe feed.id ∈ since)
  attended : TransportEvent.hangUp feed.id ∉ since → feed.channel.receiving = true
  capacity : feed.channel.capacity = buffer
  fits : feed.channel.queue.length ≤ buffer

theorem delivers_opened (id : String) (hroom : 0 < buffer) (first : TrafficRecord) :
    (Feed.opened id buffer first).Delivers buffer first [] := by
  have hchannel : (Feed.opened id buffer first).channel = (Channel.new buffer).push first :=
    Channel.offer_new hroom first
  constructor
  case part => simp [hchannel, Channel.push, Channel.new, TransportHistory.received]
  case whole =>
    intro _
    refine ⟨none, ?_, Or.inl rfl⟩
    simp [hchannel, Channel.push, Channel.new, TransportHistory.received,
      TransportHistory.samples]
  case attended => simp [hchannel, Channel.push, Channel.new]
  case capacity => simp [hchannel, Channel.push, Channel.new]
  case fits =>
    simp only [hchannel, Channel.push, Channel.new, List.nil_append, List.length_singleton]
    omega

theorem Delivers.attended_concat
    (h : feed.Delivers buffer first since)
    (hpresent : TransportEvent.hangUp feed.id ∉ since ++ [event]) :
    feed.channel.receiving = true :=
  h.attended fun hgone => hpresent (List.mem_append_left _ hgone)

/-- An event that moves no sample of the feed. -/
theorem Delivers.carry
    (h : feed.Delivers buffer first since)
    (hsample : event.sample? feed.id = none) (hnothing : event.received? feed.id = none) :
    feed.Delivers buffer first (since ++ [event]) := by
  have hsamples : TransportHistory.samples (since ++ [event]) feed.id = since.samples feed.id := by
    simp [TransportHistory.samples_concat, hsample]
  have hreceived : TransportHistory.received (since ++ [event]) feed.id
      = since.received feed.id := by
    simp [TransportHistory.received_concat, hnothing]
  constructor
  case part =>
    rw [hsamples, hreceived]
    exact h.part
  case whole =>
    intro hreceiving
    obtain ⟨unsent, hunsent, hheld⟩ := h.whole hreceiving
    refine ⟨unsent, ?_, hheld.imp_right fun hover => ⟨hover.1, List.mem_append_left _ hover.2⟩⟩
    rw [hsamples, hreceived]
    exact hunsent
  case attended => exact h.attended_concat
  case capacity => exact h.capacity
  case fits => exact h.fits

/-- A sampler that holds no sample may go on to any stage without one. -/
theorem Delivers.setSampler
    (h : feed.Delivers buffer first since)
    {sampler : SamplerStage} (goesOn : feed.sampler ≠ .ended)
    (hheld : held? { feed with sampler } = feed.held?) :
    Delivers { feed with sampler } buffer first since := by
  refine ⟨h.part, ?_, h.attended, h.capacity, h.fits⟩
  intro hreceiving
  obtain ⟨unsent, hunsent, hwaits | hover⟩ := h.whole hreceiving
  · exact ⟨unsent, hunsent, Or.inl (hwaits.trans hheld.symm)⟩
  · exact absurd hover.1 goesOn

/-- A sampler ends without loss unless the feed was closed or the receiver has gone. -/
theorem Delivers.stop
    (h : feed.Delivers buffer first since)
    (cause : TransportEvent.unsubscribe feed.id ∈ since
      ∨ feed.held? = none ∧ feed.sampler ≠ .ended
      ∨ feed.channel.receiving = false) :
    feed.stop.Delivers buffer first since := by
  refine ⟨h.part, ?_, h.attended, h.capacity, h.fits⟩
  intro hreceiving
  obtain ⟨unsent, hunsent, hheld⟩ := h.whole hreceiving
  refine ⟨unsent, hunsent, ?_⟩
  rcases cause with hclosed | ⟨hnone, hgoesOn⟩ | hgone
  · exact Or.inr ⟨rfl, hclosed⟩
  · rcases hheld with hwaits | hover
    · exact Or.inl (hwaits.trans hnone)
    · exact absurd hover.1 hgoesOn
  · have hreceiving : feed.channel.receiving = true := hreceiving
    rw [hgone] at hreceiving
    cases hreceiving

theorem Delivers.hangUp
    (h : feed.Delivers buffer first since) (hgone : TransportEvent.hangUp feed.id ∈ since) :
    Delivers { feed with channel := feed.channel.hangUp } buffer first since := by
  refine ⟨?_, nofun, fun hpresent => absurd hgone hpresent, h.capacity, Nat.zero_le _⟩
  show since.received feed.id ++ [] <+: _
  rw [List.append_nil]
  exact (List.prefix_append _ _).trans h.part

/-- The oldest sample in the channel is the next one that is received. -/
theorem Delivers.receive (h : feed.Delivers buffer first since) :
    Delivers { feed with channel := feed.channel.receive.1 } buffer first
      (since ++ [.receive feed.id feed.channel.receive.2]) := by
  cases hqueue : feed.channel.queue with
  | nil =>
    have hreceive : feed.channel.receive
        = (feed.channel, if feed.channel.sending then .empty else .closed) := by
      unfold Channel.receive
      rw [hqueue]
    rw [hreceive]
    exact h.carry rfl (by cases feed.channel.sending <;> rfl)
  | cons record rest =>
    have hreceive : feed.channel.receive
        = ({ feed.channel with queue := rest }, .item record) := by
      unfold Channel.receive
      rw [hqueue]
    rw [hreceive]
    have hreceived :
        TransportHistory.received (since ++ [.receive feed.id (.item record)]) feed.id
          = since.received feed.id ++ [record] := by
      simp [TransportHistory.received_concat, TransportEvent.received?]
    have hsamples :
        TransportHistory.samples (since ++ [.receive feed.id (.item record)]) feed.id
          = since.samples feed.id := by
      simp [TransportHistory.samples_concat, TransportEvent.sample?]
    have hmoved :
        TransportHistory.received (since ++ [.receive feed.id (.item record)]) feed.id ++ rest
          = since.received feed.id ++ feed.channel.queue := by
      rw [hreceived, hqueue, List.append_assoc]
      rfl
    have hfits := h.fits
    rw [hqueue, List.length_cons] at hfits
    constructor
    case part =>
      show _ ++ rest <+: _
      rw [hmoved, hsamples]
      exact h.part
    case whole =>
      intro hreceiving
      obtain ⟨unsent, hunsent, hheld⟩ := h.whole hreceiving
      refine ⟨unsent, ?_, hheld.imp_right fun hover => ⟨hover.1, List.mem_append_left _ hover.2⟩⟩
      show _ = _ ++ rest ++ _
      rw [hmoved, hsamples]
      exact hunsent
    case attended => exact h.attended_concat
    case capacity => exact h.capacity
    case fits =>
      show rest.length ≤ buffer
      omega

/-- A sample that is taken waits for room. -/
theorem Delivers.take
    (h : feed.Delivers buffer first since)
    {ticker : Ticker} (rests : feed.sampler = .resting ticker)
    (record : TrafficRecord) (later : Ticker) :
    Delivers { feed with sampler := .holding record later } buffer first
      (since ++ [.sampler feed.id (some (.ok record))]) := by
  have hsamples :
      TransportHistory.samples (since ++ [.sampler feed.id (some (.ok record))]) feed.id
        = since.samples feed.id ++ [record] := by
    simp [TransportHistory.samples_concat, TransportEvent.sample?]
  have hreceived :
      TransportHistory.received (since ++ [.sampler feed.id (some (.ok record))]) feed.id
        = since.received feed.id := by
    simp [TransportHistory.received_concat, TransportEvent.received?]
  constructor
  case part =>
    rw [hsamples, hreceived, ← List.cons_append]
    exact h.part.trans (List.prefix_append _ _)
  case whole =>
    intro hreceiving
    obtain ⟨unsent, hunsent, hheld | hover⟩ := h.whole hreceiving
    · -- nothing waited before, so what was taken had all gone into the channel
      have hnone : unsent = none := by
        rw [hheld, held?, rests]
      refine ⟨some record, ?_, Or.inl rfl⟩
      rw [hsamples, hreceived, ← List.cons_append, hunsent, hnone]
      simp
    · rw [rests] at hover
      cases hover.1
  case attended => exact h.attended_concat
  case capacity => exact h.capacity
  case fits => exact h.fits

/-- A sample that waits goes to the end of the channel. -/
theorem Delivers.push
    (h : feed.Delivers buffer first since)
    {record : TrafficRecord} {ticker : Ticker}
    (holds : feed.sampler = .holding record ticker)
    (receiving : feed.channel.receiving = true)
    (room : feed.channel.queue.length < feed.channel.capacity) :
    Delivers { feed with channel := feed.channel.push record, sampler := .resting ticker }
      buffer first since := by
  have hwhole : first :: since.samples feed.id
      = since.received feed.id ++ (feed.channel.queue ++ [record]) := by
    obtain ⟨unsent, hunsent, hheld | hover⟩ := h.whole receiving
    · have hsome : unsent = some record := by
        rw [hheld, held?, holds]
      rw [hunsent, hsome, List.append_assoc]
      rfl
    · rw [holds] at hover
      cases hover.1
  constructor
  case part =>
    exact ⟨[], (List.append_nil _).trans hwhole.symm⟩
  case whole => exact fun _ => ⟨none, by simpa [Channel.push] using hwhole, Or.inl rfl⟩
  case attended => exact h.attended
  case capacity => exact h.capacity
  case fits =>
    have hcapacity := h.capacity
    simp only [Channel.push, List.length_append, List.length_singleton]
    omega

/-- No event loses, repeats or reorders what was taken for a feed. -/
theorem Delivers.move
    (h : feed.Delivers buffer first since) (move : feed.Move registered event next) :
    next.Delivers buffer first (since ++ [event]) := by
  cases move with
  | rest elsewhere =>
    have hspares := TransportEvent.spares_of_feed?_ne elsewhere
    exact h.carry hspares.sample hspares.received
  | close isOpen => exact (h.carry rfl rfl).stop (Or.inl (by simp))
  | passOver closed => exact h.carry rfl rfl
  | hangUp => exact (h.carry rfl rfl).hangUp (by simp)
  | receive => exact h.receive
  | begin fresh ticker =>
    exact (h.carry rfl rfl).setSampler (by simp [fresh]) (by simp [held?, fresh])
  | giveUp fresh => exact (h.carry rfl rfl).stop (Or.inr (Or.inl (by simp [held?, fresh])))
  | wait => exact h.carry rfl rfl
  | take rests record later => exact h.take rests record later
  | skip rests error later =>
    exact (h.carry rfl rfl).setSampler (by simp [rests]) (by simp [held?, rests])
  | push holds receiving room => exact (h.carry rfl rfl).push holds receiving room
  | quit holds gone => exact (h.carry rfl rfl).stop (Or.inr (Or.inr gone))

end Feed

namespace TransportRun

variable {run next : TransportRun} {event : TransportEvent}

/-- Every feed delivers, and a receiver obtains nothing from a feed that was not opened. -/
structure Delivering (run : TransportRun) : Prop where
  unknown : ∀ id, run.transport.feed? id = none → run.past.received id = []
  known : ∀ (before since : TransportHistory) (id : String) (first : TrafficRecord),
    run.past = before ++ .opened id first :: since →
      before.received id = []
        ∧ ∃ feed, run.transport.feed? id = some feed
            ∧ feed.Delivers run.transport.buffer first since

theorem Delivering.moves
    (h : run.Delivering)
    (hroom : 0 < run.transport.buffer)
    (hpast : next.past = run.past ++ [event])
    (moves : Transport.Moves event run.transport next.transport) :
    next.Delivering := by
  constructor
  case unknown =>
    intro id hnone
    have hchange := moves.feed id
    rw [hnone] at hchange
    generalize hfeed : run.transport.feed? id = feed at hchange
    cases hchange with
    | absent spares =>
      rw [hpast, TransportHistory.received_concat, spares.received, h.unknown id hfeed]
      rfl
  case known =>
    intro before since id first hsplit
    rw [hpast] at hsplit
    rw [moves.buffer]
    have hchange := moves.feed id
    rcases History.split_concat hsplit with ⟨rfl, rfl, rfl⟩ | ⟨rest, hrest, rfl⟩
    · -- the feed was opened just now
      generalize hfeed : run.transport.feed? id = feed at hchange
      generalize next.transport.feed? id = after at hchange
      cases hchange with
      | absent spares => exact absurd rfl spares.opened
      | opened opens =>
        obtain ⟨-, rfl⟩ := TransportEvent.opened.inj opens
        exact ⟨h.unknown id hfeed, _, rfl, Feed.delivers_opened id hroom first⟩
      | move same move =>
        cases move with
        | rest elsewhere => exact absurd (congrArg some same.symm) elsewhere
    · obtain ⟨hbefore, feed, hfeed, hdelivers⟩ := h.known before rest id first hrest
      rw [hfeed] at hchange
      generalize next.transport.feed? id = after at hchange
      cases hchange with
      | move same move => exact ⟨hbefore, _, rfl, hdelivers.move move⟩

variable {settings : Settings} {source : HelperSource}

theorem Reached.delivering (reached : Reached settings source run) : run.Delivering := by
  induction reached with
  | refl =>
    constructor
    · exact fun _ _ => rfl
    · intro before since id first hsplit
      simp [new] at hsplit
  | tail reached step ih =>
    obtain ⟨event, hpast, hmoves⟩ := step.moves (Reached.numbered reached)
    have hbuffer := (Reached.fixed reached).2.1
    exact ih.moves (by omega) hpast hmoves

/-- **Feeds.** However the steps of receivers, samplers, callers and the clock follow each other,
the receiver of a feed obtains a beginning of its samples, in their order and each one once: the
sample that opened the feed, and those that runs of the helper for this feed brought since. No more
samples wait in the channel than it has room for. As long as the receiver is there, the samples are
those that were received, those in the channel, and at most one more; as long as the feed is open
this one is the sample that waits for room. -/
theorem feed_delivers_in_order
    (reached : Reached settings source run)
    {before since : TransportHistory} {id : String} {first : TrafficRecord}
    (opened : run.past = before ++ .opened id first :: since) :
    run.transport.helper.log = run.past.runs settings.backendBin
      ∧ run.past.received id <+: first :: since.samples id
      ∧ ∃ feed, run.transport.feed? id = some feed
          ∧ feed.channel.queue.length ≤ max settings.metricsBuffer 1
          ∧ (.hangUp id ∉ since →
              ∃ unsent : Option TrafficRecord,
                first :: since.samples id
                    = run.past.received id ++ feed.channel.queue ++ unsent.toList
                  ∧ (.unsubscribe id ∉ since → unsent = feed.held?)) := by
  obtain ⟨-, hbuffer, hlog⟩ := reached.fixed
  obtain ⟨hbefore, feed, hfeed, hdelivers⟩ := reached.delivering.known before since id first opened
  obtain rfl := Transport.id_of_feed?_eq_some hfeed
  have hreceived : run.past.received feed.id = since.received feed.id := by
    rw [opened, TransportHistory.received, List.filterMap_append]
    exact congrArg (· ++ _) hbefore
  rw [hbuffer] at hdelivers
  rw [hreceived]
  refine ⟨hlog, (List.prefix_append _ _).trans hdelivers.part, feed, hfeed, hdelivers.fits, ?_⟩
  intro hpresent
  obtain ⟨unsent, hunsent, hheld⟩ := hdelivers.whole (hdelivers.attended hpresent)
  refine ⟨unsent, hunsent, fun hopen => ?_⟩
  rcases hheld with hwaits | hover
  · exact hwaits
  · exact absurd hover.2 hopen

/-- A sampler begins, and three ticks follow, a second apart; between the second one and
the third one a sample is received, and one that waits may go into the channel. -/
def threeTicks (run : TransportRun) (id : String) : TransportRun :=
  let first := ((run.stepSampler id).advance 1000).stepSampler id
  let second := (first.advance 1000).stepSampler id
  let received := (second.receive id).stepSampler id
  (received.advance 1000).stepSampler id

theorem path_threeTicks (run : TransportRun) (id : String) :
    Relation.ReflTransGen Step run (run.threeTicks id) := by
  have first := ((Relation.ReflTransGen.single (Step.stepSampler run id)).tail
    (.advance _ 1000)).tail (.stepSampler _ id)
  have second := (first.tail (.advance _ 1000)).tail (.stepSampler _ id)
  have received := (second.tail (.receive _ id)).tail (.stepSampler _ id)
  exact (received.tail (.advance _ 1000)).tail (.stepSampler _ id)

theorem exists_past_threeTicks (run : TransportRun) (id : String) :
    ∃ since, (run.threeTicks id).past = run.past ++ since
      ∧ TransportEvent.hangUp id ∉ since ∧ TransportEvent.unsubscribe id ∉ since := by
  refine ⟨?since, ?past, ?present, ?isOpen⟩
  case past =>
    simp only [threeTicks, stepSampler, receive, advance, note, List.append_assoc]
    rfl
  case present => simp
  case isOpen => simp

/-- The helper answers with samples, and once with a failure. -/
def threeSamples : HelperSource :=
  .queue [⟨some 0, "[1,0,0,0,0,0]", ""⟩, ⟨some 1, "", "busy"⟩, ⟨some 0, "[2,0,0,0,0,0]", ""⟩,
    ⟨some 0, "[3,0,0,0,0,0]", ""⟩]

/-- One sample a second, and a channel that is asked to hold none. -/
def narrow : Settings where
  backendBin := "helper"
  statusPollMs := 5000
  metricsPollMs := 1000
  maxRegionQueries := 0
  displayName := "server"
  metricsBuffer := 0

theorem isSome_sampled_threeSamples :
    (new narrow threeSamples).transport.sampled.toOption.isSome = true := by
  decide +kernel

/-- A feed is opened with the first of the samples. -/
def opening : TransportRun :=
  let start := new narrow threeSamples
  start.note start.transport.subscribe.1
    (.opened "metrics-1" (start.transport.sampled.toOption.get isSome_sampled_threeSamples))

theorem reached_opening : Reached narrow threeSamples opening :=
  Relation.ReflTransGen.single (.subscribed _ isSome_sampled_threeSamples)

/-- The first sample was received, the second one fills the channel, and the third one waits; the
failure between them left no trace. -/
theorem full_channel_holds_back_a_sample :
    ∃ run first since feed,
      Reached narrow threeSamples run
        ∧ run.past = .opened "metrics-1" first :: since
        ∧ run.transport.feed? "metrics-1" = some feed
        ∧ first :: TransportHistory.samples since "metrics-1"
            = run.past.received "metrics-1" ++ feed.channel.queue ++ feed.held?.toList
        ∧ (run.past.received "metrics-1").map TrafficRecord.bytesSent = [1]
        ∧ feed.channel.queue.map TrafficRecord.bytesSent = [2]
        ∧ feed.held?.map TrafficRecord.bytesSent = some 3 := by
  have reached : Reached narrow threeSamples (opening.threeTicks "metrics-1") :=
    reached_opening.trans (path_threeTicks opening "metrics-1")
  obtain ⟨since, hpast, hpresent, hopen⟩ := exists_past_threeTicks opening "metrics-1"
  obtain ⟨first, hfirst⟩ : ∃ first, opening.past = [.opened "metrics-1" first] := ⟨_, rfl⟩
  rw [hfirst] at hpast
  obtain ⟨-, -, feed, hfeed, -, hwhole⟩ := feed_delivers_in_order reached
    (show _ = [] ++ TransportEvent.opened "metrics-1" first :: since from hpast)
  obtain ⟨unsent, hunsent, hheld⟩ := hwhole hpresent
  rw [hheld hopen] at hunsent
  have hreceived : ((opening.threeTicks "metrics-1").past.received "metrics-1").map
      TrafficRecord.bytesSent = [1] := by
    decide +kernel
  have hview : ((opening.threeTicks "metrics-1").transport.feed? "metrics-1").map (fun feed =>
      (feed.channel.queue.map TrafficRecord.bytesSent, feed.held?.map TrafficRecord.bytesSent))
        = some ([2], some 3) := by
    decide +kernel
  rw [hfeed] at hview
  obtain ⟨hqueue, hlast⟩ := Prod.mk.inj (Option.some.inj hview)
  exact ⟨_, first, since, feed, reached, hpast, hfeed, hunsent, hreceived, hqueue, hlast⟩

end TransportRun
end VpnFleet
