import VpnFleet.Proofs.Helper.Run

/-!
# What a step does to a feed

A feed is looked at under its identifier. What a step does to the feed there is
said once, for every kind of event and with the conditions under which it
happens; the rest of the theory does not open the operations again.

* `Feed.Move` is what an event does to a feed, and `Feed.Change` what it does to
  the place under an identifier, where there may be no feed yet.
* `Transport.Moves` is what an event does to a transport: to every such place,
  to the runs of the helper and to the numbers of the feeds.
* An identifier with a number that was not given out has no feed
  (`Transport.Numbered`), so a new feed does not take the place of another one.
-/

namespace VpnFleet

/-- A channel with room takes the first item that is offered to it. -/
theorem Channel.offer_new {α : Type} {capacity : Nat} (hroom : 0 < capacity) (value : α) :
    ((Channel.new capacity).offer value).1 = (Channel.new capacity).push value := by
  have haccepts : (new capacity : Channel α).accepts = true := by
    simp [accepts, hasRoom, new, hroom]
  unfold offer
  rw [if_pos haccepts]

/-- The event is about a feed that is there already, and needs no run of the helper. -/
structure TransportEvent.Handles (event : TransportEvent) (id : String) : Prop where
  about : event.feed? = some id
  unopened : event.opened? = none
  idle : ∀ program, event.runs program = []

namespace Feed

/-- A feed that was just opened. -/
def opened (id : String) (buffer : Nat) (first : TrafficRecord) : Feed where
  id
  channel := ((Channel.new buffer).offer first).1
  sampler := .fresh

/-- The sample that waits for room. -/
def held? (feed : Feed) : Option TrafficRecord :=
  match feed.sampler with
  | .holding record _ => some record
  | _ => none

/-- What an event does to a feed. -/
inductive Move (registered : List String) : TransportEvent → Feed → Feed → Prop
  | rest {event : TransportEvent} {feed : Feed} (elsewhere : event.feed? ≠ some feed.id) :
      Move registered event feed feed
  | close {feed : Feed} (isOpen : feed.id ∈ registered) :
      Move registered (.unsubscribe feed.id) feed feed.stop
  | passOver {feed : Feed} (closed : feed.id ∉ registered) :
      Move registered (.unsubscribe feed.id) feed feed
  | hangUp {feed : Feed} :
      Move registered (.hangUp feed.id) feed { feed with channel := feed.channel.hangUp }
  | receive {feed : Feed} :
      Move registered (.receive feed.id feed.channel.receive.2) feed
        { feed with channel := feed.channel.receive.1 }
  | begin {feed : Feed} (fresh : feed.sampler = .fresh) (ticker : Ticker) :
      Move registered (.sampler feed.id none) feed { feed with sampler := .resting ticker }
  /-- An interval of zero. -/
  | giveUp {feed : Feed} (fresh : feed.sampler = .fresh) :
      Move registered (.sampler feed.id none) feed feed.stop
  | wait {feed : Feed} :
      Move registered (.sampler feed.id none) feed feed
  | take {feed : Feed} {ticker : Ticker} (rests : feed.sampler = .resting ticker)
      (record : TrafficRecord) (later : Ticker) :
      Move registered (.sampler feed.id (some (.ok record))) feed
        { feed with sampler := .holding record later }
  | skip {feed : Feed} {ticker : Ticker} (rests : feed.sampler = .resting ticker)
      (error : HelperError) (later : Ticker) :
      Move registered (.sampler feed.id (some (.error error))) feed
        { feed with sampler := .resting later }
  | push {feed : Feed} {record : TrafficRecord} {ticker : Ticker}
      (holds : feed.sampler = .holding record ticker)
      (receiving : feed.channel.receiving = true)
      (room : feed.channel.queue.length < feed.channel.capacity) :
      Move registered (.sampler feed.id none) feed
        { feed with channel := feed.channel.push record, sampler := .resting ticker }
  | quit {feed : Feed} {record : TrafficRecord} {ticker : Ticker}
      (holds : feed.sampler = .holding record ticker)
      (gone : feed.channel.receiving = false) :
      Move registered (.sampler feed.id none) feed feed.stop

/-- What an event does to the feed with an identifier, if there is one. -/
inductive Change (registered : List String) (buffer : Nat) (event : TransportEvent) (id : String) :
    Option Feed → Option Feed → Prop
  | absent (spares : event.Spares id) :
      Change registered buffer event id none none
  | opened {first : TrafficRecord} (opens : event = .opened id first) :
      Change registered buffer event id none (some (Feed.opened id buffer first))
  | move {feed next : Feed} (same : feed.id = id) (move : feed.Move registered event next) :
      Change registered buffer event id (some feed) (some next)

end Feed

namespace Transport

section Identifiers

theorem feedId_injective : Function.Injective feedId := by
  intro m n h
  have hrepr : m.repr = n.repr := (String.append_right_inj _).1 h
  have hdigits : Nat.toDigits 10 m = Nat.toDigits 10 n := by
    rw [← Nat.toList_repr, ← Nat.toList_repr, hrepr]
  have hread (k : Nat) : Nat.ofDigitChars 10 (Nat.toDigits 10 k) 0 = k :=
    Nat.ofDigitChars_toDigits (by omega) (by omega)
  rw [← hread m, hdigits, hread n]

variable {transport : Transport} {id : String}

theorem id_of_feed?_eq_some {feed : Feed} (h : transport.feed? id = some feed) : feed.id = id := by
  simpa using List.find?_some h

/-- A change of a feed that keeps its identifier is seen there and nowhere else. -/
theorem feed?_onFeed {f : Feed → Feed} (hid : ∀ feed, (f feed).id = feed.id) (other : String) :
    (transport.onFeed id f).feed? other
      = (transport.feed? other).map fun feed => if other = id then f feed else feed := by
  unfold feed? onFeed
  dsimp only
  rw [List.find?_map]
  have hkeys : ((fun feed : Feed => decide (feed.id = other)) ∘
      fun feed => if feed.id = id then f feed else feed) = fun feed => decide (feed.id = other) := by
    funext feed
    dsimp only [Function.comp_apply]
    split
    · rw [hid]
    · rfl
  rw [hkeys]
  cases hfound : transport.feeds.find? fun feed => feed.id = other with
  | none => rfl
  | some feed =>
    have hfeed : feed.id = other := by
      simpa using List.find?_some hfound
    simp [hfeed]

theorem feed?_openFeed (first : TrafficRecord) (other : String) :
    (transport.openFeed first).1.feed? other
      = (transport.feed? other).or
          (if feedId transport.nextFeed = other then
            some (Feed.opened (feedId transport.nextFeed) transport.buffer first)
          else none) := by
  have hlast : List.find? (fun feed : Feed => decide (feed.id = other))
      [Feed.opened (feedId transport.nextFeed) transport.buffer first]
        = if feedId transport.nextFeed = other then
            some (Feed.opened (feedId transport.nextFeed) transport.buffer first)
          else none := by
    by_cases hother : feedId transport.nextFeed = other
    · simp [Feed.opened, hother]
    · simp [Feed.opened, hother]
  rw [← hlast]
  exact List.find?_append

end Identifiers

/-- Numbers that were not given out have no feed. -/
def Numbered (transport : Transport) : Prop :=
  ∀ n, transport.nextFeed ≤ n → transport.feed? (feedId n) = none

/-- What an event does to a transport. -/
structure Moves (event : TransportEvent) (transport next : Transport) : Prop where
  program : next.program = transport.program
  buffer : next.buffer = transport.buffer
  log : next.helper.log = transport.helper.log ++ event.runs transport.program
  /-- A new feed has the next number. -/
  issued : ∀ id, event.opened? = some id → id = feedId transport.nextFeed
  nextFeed : next.nextFeed = transport.nextFeed + event.opened?.toList.length
  feed (id : String) :
    Feed.Change transport.registered transport.buffer event id
      (transport.feed? id) (next.feed? id)

theorem Moves.numbered
    {event : TransportEvent} {transport next : Transport}
    (h : Moves event transport next) (numbered : transport.Numbered) : next.Numbered := by
  intro n hn
  have hnext := h.nextFeed
  have hbefore := numbered n (by omega)
  have hchange := h.feed (feedId n)
  rw [hbefore] at hchange
  generalize hfeed : next.feed? (feedId n) = feed at hchange
  cases hchange with
  | absent spares => rfl
  | opened opens =>
    -- the number of the new feed is not among those that are left
    have hnumber : n = transport.nextFeed := feedId_injective (h.issued _ (by rw [opens]; rfl))
    rw [opens] at hnext
    simp only [TransportEvent.opened?, Option.toList_some, List.length_singleton] at hnext
    omega

section Operations

variable (transport : Transport) {event : TransportEvent} {id : String}

/-- An event leaves the feeds as they are that it is not about. -/
theorem change_elsewhere (elsewhere : event.feed? ≠ some id) :
    Feed.Change transport.registered transport.buffer event id
      (transport.feed? id) (transport.feed? id) := by
  cases hfeed : transport.feed? id with
  | none => exact .absent (TransportEvent.spares_of_feed?_ne elsewhere)
  | some feed =>
    have hid : feed.id = id := id_of_feed?_eq_some hfeed
    exact .move hid (.rest (by rwa [hid]))

/-- An event about one feed changes this feed alone. -/
theorem change_onFeed
    {f : Feed → Feed} (hid : ∀ feed, (f feed).id = feed.id)
    (about : event.feed? = some id)
    (here : Feed.Change transport.registered transport.buffer event id
      (transport.feed? id) ((transport.feed? id).map f))
    (other : String) :
    Feed.Change transport.registered transport.buffer event other
      (transport.feed? other) ((transport.onFeed id f).feed? other) := by
  rw [feed?_onFeed hid]
  by_cases hother : other = id
  · subst hother
    simpa using here
  · have hsame : (transport.feed? other).map (fun feed => if other = id then f feed else feed)
        = transport.feed? other := by
      simp [hother]
    rw [hsame]
    exact transport.change_elsewhere fun h => hother (Option.some.inj (about.symm.trans h)).symm

/-- Runs of the helper that serve no feed. -/
theorem moves_of_helper
    {helper : Helper} (about : event.feed? = none)
    (hlog : helper.log = transport.helper.log ++ event.runs transport.program) :
    Moves event transport { transport with helper } := by
  have hopened : event.opened? = none := by
    cases event with
    | opened other first => cases about
    | _ => rfl
  constructor
  case program => rfl
  case buffer => rfl
  case log => exact hlog
  case issued => simp [hopened]
  case nextFeed => simp [hopened]
  case feed =>
    intro other
    refine transport.change_elsewhere ?_
    rw [about]
    exact nofun

theorem call_moves {call : Call} (plain : call.isForFeed = false) :
    Moves (.call call) transport (transport.call call).1 := by
  rw [call_of_plain transport plain]
  exact transport.moves_of_helper rfl (Helper.run_log _ _)

theorem subscribe_eq :
    transport.subscribe
      = match transport.sampled with
        | .ok first =>
          (({ transport with helper := (transport.helper.sample transport.program).1 }
              |>.openFeed first).1,
            .ok (feedId transport.nextFeed))
        | .error error =>
          ({ transport with helper := (transport.helper.sample transport.program).1 },
            .error error) := by
  unfold subscribe sampled withHelper
  generalize transport.helper.sample transport.program = outcome
  obtain ⟨helper, error | first⟩ := outcome <;> rfl

/-- A subscription opens a feed with the next number. -/
theorem subscribe_moves
    {next : Transport} {first : TrafficRecord}
    (numbered : transport.Numbered)
    (answered : transport.subscribe = (next, .ok id))
    (hfirst : transport.sampled = .ok first) :
    Moves (.opened id first) transport next := by
  rw [subscribe_eq, hfirst] at answered
  cases answered
  constructor
  case program => rfl
  case buffer => rfl
  case log => exact Helper.sample_log _ _
  case issued =>
    intro other h
    exact (Option.some.inj h).symm
  case nextFeed => rfl
  case feed =>
    intro other
    have hfresh : transport.feed? (feedId transport.nextFeed) = none :=
      numbered _ (Nat.le_refl _)
    rw [feed?_openFeed]
    show Feed.Change _ _ _ _ _ ((transport.feed? other).or _)
    by_cases hother : feedId transport.nextFeed = other
    · subst hother
      rw [if_pos rfl, hfresh]
      exact .opened rfl
    · rw [if_neg hother, Option.or_none]
      exact transport.change_elsewhere fun h => hother (Option.some.inj h)

theorem subscribe_refused_moves
    {next : Transport} {error : HelperError}
    (answered : transport.subscribe = (next, .error error)) :
    Moves (.refused error) transport next := by
  rw [subscribe_eq] at answered
  cases hfirst : transport.sampled with
  | ok first =>
    rw [hfirst] at answered
    cases answered
  | error cause =>
    rw [hfirst] at answered
    cases answered
    exact transport.moves_of_helper rfl (Helper.sample_log _ _)

theorem moves_onFeed
    (f : Feed → Feed) (hid : ∀ feed, (f feed).id = feed.id) (registered : List String)
    (handles : event.Handles id)
    (here : Feed.Change transport.registered transport.buffer event id
      (transport.feed? id) ((transport.feed? id).map f)) :
    Moves event transport { transport.onFeed id f with registered } := by
  constructor
  case program => rfl
  case buffer => rfl
  case log => simp [onFeed, handles.idle]
  case issued => simp [handles.unopened]
  case nextFeed => simp [onFeed, handles.unopened]
  case feed => exact transport.change_onFeed hid handles.about here

/-- An event about one feed may leave this feed as it is, too. -/
theorem moves_same
    (handles : event.Handles id)
    (here : Feed.Change transport.registered transport.buffer event id
      (transport.feed? id) (transport.feed? id)) :
    Moves event transport transport := by
  have hself : transport.onFeed id (fun feed => feed) = transport := by
    simp [onFeed]
  have hmoves := transport.moves_onFeed (fun feed => feed) (fun _ => rfl) transport.registered
    handles (by simpa using here)
  rwa [hself] at hmoves

theorem unsubscribe_moves (id : String) :
    Moves (.unsubscribe id) transport (transport.unsubscribe id) := by
  have handles : (TransportEvent.unsubscribe id).Handles id := ⟨rfl, rfl, fun _ => rfl⟩
  unfold unsubscribe
  split
  · next hopen =>
      refine transport.moves_onFeed Feed.stop (fun _ => rfl) _ handles ?_
      cases hfeed : transport.feed? id with
      | none => exact .absent ⟨nofun, rfl, rfl⟩
      | some feed =>
        obtain rfl := id_of_feed?_eq_some hfeed
        exact .move rfl (.close (by simpa using hopen))
  · next hclosed =>
      refine transport.moves_same handles ?_
      cases hfeed : transport.feed? id with
      | none => exact .absent ⟨nofun, rfl, rfl⟩
      | some feed =>
        obtain rfl := id_of_feed?_eq_some hfeed
        exact .move rfl (.passOver (by simpa using hclosed))

theorem hangUp_moves (id : String) : Moves (.hangUp id) transport (transport.hangUp id) := by
  have handles : (TransportEvent.hangUp id).Handles id := ⟨rfl, rfl, fun _ => rfl⟩
  refine transport.moves_onFeed (fun feed => { feed with channel := feed.channel.hangUp })
    (fun _ => rfl) transport.registered handles ?_
  cases hfeed : transport.feed? id with
  | none => exact .absent ⟨nofun, rfl, rfl⟩
  | some feed =>
    obtain rfl := id_of_feed?_eq_some hfeed
    exact .move rfl .hangUp

theorem receive_moves (id : String) :
    Moves (.receive id (transport.receive id).2) transport (transport.receive id).1 := by
  have handles (received : Received TrafficRecord) :
      (TransportEvent.receive id received).Handles id :=
    ⟨rfl, rfl, fun _ => rfl⟩
  unfold receive
  cases hfeed : transport.feed? id with
  | none =>
    refine transport.moves_same (handles _) ?_
    rw [hfeed]
    exact .absent ⟨nofun, rfl, rfl⟩
  | some feed =>
    refine transport.moves_onFeed (fun found => { found with channel := feed.channel.receive.1 })
      (fun _ => rfl) transport.registered (handles _) ?_
    rw [hfeed]
    obtain rfl := id_of_feed?_eq_some hfeed
    exact .move rfl .receive

theorem tickSampler_eq (id : String) (ticker : Ticker) (now : Nat) :
    transport.tickSampler id ticker now
      = { transport with helper := (transport.helper.sample transport.program).1 }.setSampler id
          (match transport.sampled with
            | .ok record => .holding record (ticker.take now)
            | .error _ => .resting (ticker.take now)) := by
  unfold tickSampler sampled withHelper
  generalize transport.helper.sample transport.program = outcome
  obtain ⟨helper, error | record⟩ := outcome <;> rfl

/-- A tick takes one sample. -/
theorem tickSampler_moves
    {feed : Feed} (hfeed : transport.feed? id = some feed)
    {ticker : Ticker} (rests : feed.sampler = .resting ticker) (now : Nat) :
    Moves (.sampler id (some transport.sampled)) transport
      (transport.tickSampler id ticker now) := by
  rw [tickSampler_eq]
  refine ⟨rfl, rfl, Helper.sample_log _ _, nofun, rfl, ?_⟩
  refine transport.change_onFeed (fun _ => rfl) rfl ?_
  rw [hfeed]
  obtain rfl := id_of_feed?_eq_some hfeed
  cases transport.sampled with
  | ok record => exact .move rfl (.take rests record (ticker.take now))
  | error error => exact .move rfl (.skip rests error (ticker.take now))

theorem stepSampler_moves (id : String) (now : Nat) :
    Moves (.sampler id (transport.sampling? id now)) transport
      (transport.stepSampler id now).1 := by
  have handles : (TransportEvent.sampler id none).Handles id := ⟨rfl, rfl, fun _ => rfl⟩
  have hkeep := transport.moves_same handles
  have hchange {f : Feed → Feed} (hid : ∀ feed, (f feed).id = feed.id) :=
    transport.moves_onFeed f hid transport.registered handles
  unfold stepSampler sampling?
  cases hfeed : transport.feed? id with
  | none =>
    rw [hfeed] at hkeep
    exact hkeep (.absent ⟨nofun, rfl, rfl⟩)
  | some feed =>
    rw [hfeed] at hkeep hchange
    obtain rfl := id_of_feed?_eq_some hfeed
    simp only [Option.map_some]
    cases hsampler : feed.sampler with
    | fresh =>
      dsimp only
      unfold beginSampler
      split
      · exact hchange (fun _ => rfl) (.move rfl (.giveUp hsampler))
      · exact hchange (fun _ => rfl) (.move rfl (.begin hsampler _))
    | resting ticker =>
      dsimp only
      split
      · exact transport.tickSampler_moves hfeed hsampler now
      · exact hkeep (.move rfl .wait)
    | holding record ticker =>
      dsimp only
      split
      · next hgone =>
          exact hchange (fun _ => rfl) (.move rfl (.quit hsampler (by simpa using hgone)))
      · next hreceiving =>
          split
          · next hroom =>
              exact hchange (fun _ => rfl) (.move rfl
                (.push hsampler (by simpa using hreceiving) (by simpa [Channel.hasRoom] using hroom)))
          · exact hkeep (.move rfl .wait)
    | ended => exact hkeep (.move rfl .wait)

end Operations

end Transport

namespace TransportRun

variable {run next : TransportRun}

/-- A step is one event, and does to the transport what the event does. -/
theorem Step.moves (step : Step run next) (numbered : run.transport.Numbered) :
    ∃ event, next.past = run.past ++ [event]
      ∧ Transport.Moves event run.transport next.transport := by
  cases step with
  | call call plain => exact ⟨_, rfl, run.transport.call_moves plain⟩
  | subscribe answered sampled =>
    exact ⟨_, rfl, run.transport.subscribe_moves numbered answered sampled⟩
  | refuse answered => exact ⟨_, rfl, run.transport.subscribe_refused_moves answered⟩
  | unsubscribe id => exact ⟨_, rfl, run.transport.unsubscribe_moves id⟩
  | stepSampler id => exact ⟨_, rfl, run.transport.stepSampler_moves id run.now⟩
  | receive id => exact ⟨_, rfl, run.transport.receive_moves id⟩
  | hangUp id => exact ⟨_, rfl, run.transport.hangUp_moves id⟩
  | prepare output =>
    have hlog : (run.transport.helper.prepare output).log = run.transport.helper.log ++ [] := by
      rw [Helper.prepare_log, List.append_nil]
    exact ⟨_, rfl, run.transport.moves_of_helper rfl hlog⟩
  | advance millis =>
    have hlog : run.transport.helper.log = run.transport.helper.log ++ [] :=
      (List.append_nil _).symm
    exact ⟨_, rfl, run.transport.moves_of_helper rfl hlog⟩

/-- The run after a subscription whose first sample succeeds. -/
def subscribed (run : TransportRun)
    (hsampled : run.transport.sampled.toOption.isSome = true) : TransportRun :=
  run.note run.transport.subscribe.1
    (.opened (Transport.feedId run.transport.nextFeed)
      (run.transport.sampled.toOption.get hsampled))

theorem Step.subscribed (run : TransportRun)
    (hsampled : run.transport.sampled.toOption.isSome = true) :
    Step run (run.subscribed hsampled) := by
  have hok (outcome : Except HelperError TrafficRecord) (h : outcome.toOption.isSome = true) :
      outcome = .ok (outcome.toOption.get h) := by
    cases outcome with
    | ok record => rfl
    | error error => cases h
  refine .subscribe run ?_ (hok _ hsampled)
  rw [Transport.subscribe_eq, hok _ hsampled]

theorem numbered_new (settings : Settings) (source : HelperSource) :
    (new settings source).transport.Numbered :=
  fun _ _ => rfl

theorem Reached.numbered
    {settings : Settings} {source : HelperSource} (reached : Reached settings source run) :
    run.transport.Numbered := by
  induction reached with
  | refl => exact numbered_new settings source
  | tail _ step ih =>
    obtain ⟨event, -, hmoves⟩ := step.moves ih
    exact hmoves.numbered ih

/-- What the settings say of a transport stays, and the runs of the helper are those of the
events. -/
theorem Reached.fixed
    {settings : Settings} {source : HelperSource} (reached : Reached settings source run) :
    run.transport.program = settings.backendBin
      ∧ run.transport.buffer = max settings.metricsBuffer 1
      ∧ run.transport.helper.log = run.past.runs settings.backendBin := by
  induction reached with
  | refl => exact ⟨rfl, rfl, rfl⟩
  | tail reached step ih =>
    obtain ⟨hprogram, hbuffer, hlog⟩ := ih
    obtain ⟨event, hpast, hmoves⟩ := step.moves (numbered reached)
    refine ⟨hmoves.program.trans hprogram, hmoves.buffer.trans hbuffer, ?_⟩
    rw [hmoves.log, hpast, TransportHistory.runs_concat, hlog, hprogram]

end TransportRun
end VpnFleet
