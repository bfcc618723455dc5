import VpnFleet.Proofs.Helper.Delivery

/-!
# Open feeds

The transport keeps the identifiers of its open feeds. A feed is open from its
subscription on until it is closed by name, whatever becomes of its receiver and
of its sampler in the meantime.

* The history alone says which feeds are open (`TransportHistory.openIds`), and
  each step changes the identifiers in the same way.
* `Transport.Closes` says what a closing does: it concerns one open feed, or
  nothing at all.
* A closed feed has a sampler that has ended. It stays so, and an ended sampler
  runs the helper no more.
-/

namespace VpnFleet

/-- The feed that is to be closed. -/
def TransportEvent.closing? : TransportEvent → Option String
  | unsubscribe id => some id
  | _ => none

namespace TransportHistory

/-- The identifiers of the feeds that were opened, the oldest first. -/
def issued (past : TransportHistory) : List String :=
  past.filterMap TransportEvent.opened?

/-- The identifiers of the feeds that were opened and not closed since, the oldest first. -/
def openIds : TransportHistory → List String
  | [] => []
  | event :: since =>
    match event.opened? with
    | some id =>
      if since.any fun later => later.closing? = some id then openIds since
      else id :: openIds since
    | none => openIds since

variable (past : TransportHistory) (event : TransportEvent)

theorem issued_concat : issued (past ++ [event]) = past.issued ++ event.opened?.toList :=
  Keyed.filterMap_concat _ past event

theorem openIds_eq_lasting :
    past.openIds
      = History.lasting TransportEvent.opened? (fun id later => later.closing? = some id) past := by
  induction past with
  | nil => rfl
  | cons first since ih =>
    unfold openIds History.lasting
    rw [ih]
    cases first.opened? <;> rfl

/-- An event takes the feed out that it closes and puts the one at the end that it opens. -/
theorem openIds_concat :
    openIds (past ++ [event])
      = (past.openIds.filter fun id => event.closing? ≠ some id) ++ event.opened?.toList := by
  rw [openIds_eq_lasting, History.lasting_concat, ← openIds_eq_lasting]
  simp

end TransportHistory

/-- An ended sampler stays ended and takes no sample. -/
theorem Feed.Move.of_ended
    {registered : List String} {event : TransportEvent} {feed next : Feed}
    (move : feed.Move registered event next) (hended : feed.sampler = .ended) :
    next.sampler = .ended ∧ ∀ outcome, event ≠ .sampler feed.id (some outcome) := by
  cases move with
  | rest elsewhere => exact ⟨hended, fun outcome hevent => elsewhere (by rw [hevent]; rfl)⟩
  | close isOpen => exact ⟨rfl, nofun⟩
  | begin fresh ticker => simp [hended] at fresh
  | giveUp fresh => simp [hended] at fresh
  | wait => exact ⟨hended, by simp⟩
  | take rests record later => simp [hended] at rests
  | skip rests error later => simp [hended] at rests
  | push holds receiving room => simp [hended] at holds
  | quit holds gone => simp [hended] at holds
  | _ => exact ⟨hended, nofun⟩

namespace Transport

/-- At most the feed with this identifier is closed, and nothing else is touched. -/
structure Closes (transport : Transport) (id : String) (next : Transport) : Prop where
  unopened : id ∉ transport.registered → next = transport
  registered : next.registered = transport.registered.filter (· ≠ id)
  stopped : id ∈ transport.registered →
    next.feed? id = (transport.feed? id).map Feed.stop
  /-- The channel and the sampler of every other feed. -/
  others : ∀ other, other ≠ id → next.feed? other = transport.feed? other
  nextSample : ∀ other, other ≠ id → next.nextSample? other = transport.nextSample? other
  rest : next = { transport with feeds := next.feeds, registered := next.registered }

/-- The next sampling time of a feed is read off the feed. -/
theorem nextSample?_eq_of_feed? {transport next : Transport} {id : String}
    (h : next.feed? id = transport.feed? id) : next.nextSample? id = transport.nextSample? id := by
  unfold nextSample?
  rw [h]

theorem unsubscribe_closes (transport : Transport) (id : String) :
    transport.Closes id (transport.unsubscribe id) := by
  unfold unsubscribe
  by_cases hopen : id ∈ transport.registered
  · rw [if_pos (by simpa using hopen)]
    have hlookup (other : String) :
        (transport.onFeed id Feed.stop).feed? other
          = (transport.feed? other).map fun feed => if other = id then feed.stop else feed := by
      have hid (feed : Feed) : feed.stop.id = feed.id := rfl
      exact feed?_onFeed hid other
    have hothers (other : String) (hne : other ≠ id) :
        (transport.onFeed id Feed.stop).feed? other = transport.feed? other := by
      simp [hlookup, hne]
    constructor
    case unopened => exact fun hclosed => absurd hopen hclosed
    case registered => rfl
    case stopped =>
      intro _
      have hhere := hlookup id
      simp only [if_true] at hhere
      exact hhere
    case others => exact hothers
    case nextSample =>
      intro other hne
      exact nextSample?_eq_of_feed? (hothers other hne)
    case rest => rfl
  · rw [if_neg (by simpa using hopen)]
    refine ⟨fun _ => rfl, ?_, fun h => absurd h hopen, fun _ _ => rfl, fun _ _ => rfl, rfl⟩
    rw [eq_comm, List.filter_eq_self]
    intro other hother
    have hne : other ≠ id := by
      rintro rfl
      exact hopen hother
    simpa using hne

/-- A subscription whose first sample fails leaves everything but the helper. -/
theorem subscribe_of_failed {transport : Transport} {error : HelperError}
    (hfailed : transport.sampled = .error error) :
    transport.subscribe
      = ({ transport with helper := (transport.helper.sample transport.program).1 },
        .error error) := by
  rw [subscribe_eq, hfailed]

section Registered

variable (transport : Transport)

theorem stepSampler_registered (id : String) (now : Nat) :
    (transport.stepSampler id now).1.registered = transport.registered := by
  unfold stepSampler
  split
  · rfl
  · split
    · rfl
    · unfold beginSampler
      split <;> rfl
    · split
      · rw [tickSampler_eq]
        rfl
      · rfl
    · split
      · rfl
      · split <;> rfl

theorem receive_registered (id : String) :
    (transport.receive id).1.registered = transport.registered := by
  unfold receive
  split <;> rfl

end Registered
end Transport

namespace TransportRun

variable {settings : Settings} {source : HelperSource} {run next : TransportRun}
variable {event : TransportEvent}

/-- A step changes the identifiers of the open feeds as its event changes the open feeds. -/
theorem Step.registered (step : Step run next) (hpast : next.past = run.past ++ [event]) :
    next.transport.registered
      = (run.transport.registered.filter fun id => event.closing? ≠ some id)
          ++ event.opened?.toList := by
  have hkeep {other : TransportEvent} (hother : next.past = run.past ++ [other])
      (hcloses : other.closing? = none) (hopens : other.opened? = none)
      (hsame : next.transport.registered = run.transport.registered) :
      next.transport.registered
        = (run.transport.registered.filter fun id => event.closing? ≠ some id)
            ++ event.opened?.toList := by
    obtain rfl : other = event := by simpa using hother.symm.trans hpast
    simp [hcloses, hopens, hsame]
  cases step with
  | call call plain =>
    refine hkeep rfl rfl rfl ?_
    show (run.transport.call call).1.registered = _
    rw [Transport.call_of_plain _ plain]
  | @subscribe transport id first answered sampled =>
    obtain rfl : .opened id first = event := by simpa [note] using hpast
    rw [Transport.subscribe_eq, sampled] at answered
    cases answered
    simp [note, Transport.openFeed, TransportEvent.closing?, TransportEvent.opened?]
  | refuse answered =>
    refine hkeep rfl rfl rfl ?_
    rw [Transport.subscribe_eq] at answered
    cases hsampled : run.transport.sampled with
    | ok first =>
      rw [hsampled] at answered
      cases answered
    | error cause =>
      rw [hsampled] at answered
      cases answered
      rfl
  | unsubscribe id =>
    obtain rfl : .unsubscribe id = event := by simpa [note] using hpast
    have hcloses := (run.transport.unsubscribe_closes id).registered
    show (run.transport.unsubscribe id).registered = _ ++ []
    rw [hcloses, List.append_nil]
    simp [TransportEvent.closing?, eq_comm]
  | stepSampler id => exact hkeep rfl rfl rfl (run.transport.stepSampler_registered id run.now)
  | receive id => exact hkeep rfl rfl rfl (run.transport.receive_registered id)
  | _ => exact hkeep rfl rfl rfl rfl

/-- What the identifiers given out so far and those of the open feeds stand for. -/
structure Registering (run : TransportRun) : Prop where
  distinct : run.past.issued.Nodup
  numbered : ∀ id ∈ run.past.issued, ∃ n, n < run.transport.nextFeed ∧ id = Transport.feedId n
  openIds : run.transport.registered = run.past.openIds
  /-- A feed that is not open any more has an ended sampler. -/
  known : ∀ id ∈ run.past.issued, ∃ feed, run.transport.feed? id = some feed
    ∧ (id ∉ run.transport.registered → feed.sampler = .ended)
  closed : ∀ (before since : TransportHistory) (id : String),
    run.past = before ++ .unsubscribe id :: since → id ∈ before.issued →
      id ∉ run.transport.registered ∧ ∀ outcome, .sampler id (some outcome) ∉ since

theorem registering_new (settings : Settings) (source : HelperSource) :
    (new settings source).Registering where
  distinct := List.nodup_nil
  numbered := fun _ hid => by cases hid
  openIds := rfl
  known := fun _ hid => by cases hid
  closed := by
    intro before since id hsplit
    simp [new] at hsplit

/-- A new feed has an identifier that was not given out before. -/
theorem Registering.opened?_ne
    (h : run.Registering) (moves : Transport.Moves event run.transport next.transport)
    {id : String} (hid : id ∈ run.past.issued) :
    event.opened? ≠ some id := by
  intro hopened
  obtain ⟨n, hn, hnumber⟩ := h.numbered id hid
  have hlast := moves.issued id hopened
  have hsame : n = run.transport.nextFeed := Transport.feedId_injective (hnumber.symm.trans hlast)
  omega

/-- What an event does to a feed that was opened before. -/
theorem Registering.exists_move
    (h : run.Registering) (moves : Transport.Moves event run.transport next.transport)
    {id : String} (hid : id ∈ run.past.issued) :
    ∃ feed after : Feed,
      feed.id = id
        ∧ next.transport.feed? id = some after
        ∧ feed.Move run.transport.registered event after
        ∧ (id ∉ run.transport.registered → feed.sampler = .ended) := by
  obtain ⟨feed, hfeed, hended⟩ := h.known id hid
  have hchange := moves.feed id
  rw [hfeed] at hchange
  generalize hnext : next.transport.feed? id = after at hchange
  cases hchange with
  | move same move => exact ⟨feed, _, same, rfl, move, hended⟩

theorem Registering.step
    (h : run.Registering) (step : Step run next)
    (hpast : next.past = run.past ++ [event])
    (moves : Transport.Moves event run.transport next.transport) :
    next.Registering := by
  have hregistered := step.registered hpast
  have hissued : next.past.issued = run.past.issued ++ event.opened?.toList := by
    rw [hpast, TransportHistory.issued_concat]
  have hnumber := moves.nextFeed
  constructor
  case distinct =>
    rw [hissued, List.nodup_append]
    refine ⟨h.distinct, ?_, ?_⟩
    · cases event.opened? <;> simp
    · rintro id hid _ hnew rfl
      exact h.opened?_ne moves hid (Option.mem_toList.1 hnew)
  case numbered =>
    intro id hid
    rw [hissued] at hid
    rcases List.mem_append.1 hid with hold | hnew
    · obtain ⟨n, hn, hname⟩ := h.numbered id hold
      exact ⟨n, by omega, hname⟩
    · have hopened : event.opened? = some id := Option.mem_toList.1 hnew
      rw [hopened, Option.toList_some, List.length_singleton] at hnumber
      exact ⟨run.transport.nextFeed, by omega, moves.issued id hopened⟩
  case openIds => rw [hregistered, h.openIds, hpast, TransportHistory.openIds_concat]
  case known =>
    intro id hid
    rw [hissued] at hid
    rcases List.mem_append.1 hid with hold | hnew
    · obtain ⟨feed, after, rfl, hafter, hmove, hended⟩ := h.exists_move moves hold
      refine ⟨after, hafter, fun hclosed => ?_⟩
      by_cases hopen : feed.id ∈ run.transport.registered
      · -- the feed was open, so this event has closed it
        have hcloses : event.closing? = some feed.id := by
          by_contra hother
          refine hclosed ?_
          rw [hregistered]
          exact List.mem_append_left _ (List.mem_filter.2 ⟨hopen, by simpa using hother⟩)
        cases hmove with
        | close isOpen => rfl
        | passOver closed => exact absurd hopen closed
        | rest elsewhere =>
          cases event with
          | unsubscribe other => exact absurd hcloses elsewhere
          | _ => cases hcloses
        | _ => cases hcloses
      · exact (hmove.of_ended (hended hopen)).1
    · have hopened : event.opened? = some id := Option.mem_toList.1 hnew
      have hopen : id ∈ next.transport.registered := by
        rw [hregistered]
        exact List.mem_append_right _ hnew
      have hchange := moves.feed id
      generalize run.transport.feed? id = feed at hchange
      generalize next.transport.feed? id = after at hchange
      cases hchange with
      | absent spares => exact absurd hopened spares.opened
      | opened opens => exact ⟨_, rfl, fun hclosed => absurd hopen hclosed⟩
      | move same move => exact ⟨_, rfl, fun hclosed => absurd hopen hclosed⟩
  case closed =>
    intro before since id hsplit hid
    rw [hpast] at hsplit
    rcases History.split_concat hsplit with ⟨rfl, rfl, rfl⟩ | ⟨rest, hrest, rfl⟩
    · refine ⟨?_, fun outcome => List.not_mem_nil⟩
      rw [hregistered]
      simp [TransportEvent.closing?, TransportEvent.opened?]
    · obtain ⟨hclosed, hsilent⟩ := h.closed before rest id hrest hid
      have hold : id ∈ run.past.issued := by
        rw [hrest, TransportHistory.issued, List.filterMap_append]
        exact List.mem_append_left _ hid
      obtain ⟨feed, after, rfl, -, hmove, hended⟩ := h.exists_move moves hold
      constructor
      · rw [hregistered, List.mem_append, not_or]
        refine ⟨fun hmem => hclosed (List.mem_filter.1 hmem).1, fun hmem => ?_⟩
        exact h.opened?_ne moves hold (Option.mem_toList.1 hmem)
      · intro outcome hmem
        rcases List.mem_append.1 hmem with hearlier | hlast
        · exact hsilent outcome hearlier
        · exact (hmove.of_ended (hended hclosed)).2 outcome (List.mem_singleton.1 hlast).symm

theorem Reached.registering (reached : Reached settings source run) : run.Registering := by
  induction reached with
  | refl => exact registering_new settings source
  | tail reached step ih =>
    obtain ⟨event, hpast, hmoves⟩ := step.moves (Reached.numbered reached)
    exact ih.step step hpast hmoves

/-- **Open feeds.** In every run the identifiers given out are distinct, and the open feeds are
those that were opened and not closed since. A subscription whose first sample fails leaves the
feeds, the open ones among them and the numbers as they are. A closing succeeds, closes at most the
feed that it names, and leaves every other feed with its channel and its sampler. The runs of the
helper are those of the events, and none of them is for a feed that was closed before. -/
theorem registry_follows_subscriptions (reached : Reached settings source run) :
    run.past.issued.Nodup
      ∧ run.transport.registered = run.past.openIds
      ∧ run.transport.openFeeds = run.past.openIds.length
      ∧ (∀ error, run.transport.sampled = .error error →
        run.transport.subscribe
          = ({ run.transport with
                helper := (run.transport.helper.sample run.transport.program).1 },
              .error error))
      ∧ (∀ id, run.transport.answer (.unsubscribe id) = (run.transport.unsubscribe id, .ok ())
        ∧ run.transport.Closes id (run.transport.unsubscribe id))
      ∧ run.transport.helper.log = run.past.runs settings.backendBin
      ∧ ∀ (before since : TransportHistory) (id : String),
        run.past = before ++ .unsubscribe id :: since → id ∈ before.issued →
          ∀ outcome, .sampler id (some outcome) ∉ since := by
  have h := reached.registering
  refine ⟨h.distinct, h.openIds, congrArg List.length h.openIds, ?_, ?_, reached.fixed.2.2, ?_⟩
  · exact fun error hfailed => Transport.subscribe_of_failed hfailed
  · exact fun id => ⟨rfl, run.transport.unsubscribe_closes id⟩
  · exact fun before since id hsplit hid => (h.closed before since id hsplit hid).2

/-- The helper answers with three samples and then fails. -/
def threeThenNone : HelperSource :=
  .queue [⟨some 0, "[1,0,0,0,0,0]", ""⟩, ⟨some 0, "[2,0,0,0,0,0]", ""⟩,
    ⟨some 0, "[3,0,0,0,0,0]", ""⟩, ⟨some 1, "", "busy"⟩]

theorem isSome_sampled_threeThenNone :
    (new narrow threeThenNone).transport.sampled.toOption.isSome = true := by
  decide +kernel

/-- One feed is opened. -/
def oneFeed : TransportRun :=
  (new narrow threeThenNone).subscribed isSome_sampled_threeThenNone

theorem isSome_sampled_oneFeed : oneFeed.transport.sampled.toOption.isSome = true := by
  decide +kernel

/-- Two feeds are opened. -/
def twoFeeds : TransportRun :=
  oneFeed.subscribed isSome_sampled_oneFeed

theorem reached_twoFeeds : Reached narrow threeThenNone twoFeeds :=
  (Relation.ReflTransGen.single (.subscribed _ isSome_sampled_threeThenNone)).tail
    (.subscribed oneFeed isSome_sampled_oneFeed)

/-- A feed is closed, and the sampler of another one begins and takes a sample. -/
def closedBeside (run : TransportRun) (id other : String) : TransportRun :=
  let closed := run.note (run.transport.unsubscribe id) (.unsubscribe id)
  ((closed.stepSampler other).advance 1000).stepSampler other

theorem path_closedBeside (run : TransportRun) (id other : String) :
    Relation.ReflTransGen Step run (run.closedBeside id other) :=
  (((Relation.ReflTransGen.single (Step.unsubscribe run id)).tail (.stepSampler _ other)).tail
    (.advance _ 1000)).tail (.stepSampler _ other)

theorem exists_past_closedBeside (run : TransportRun) (id other : String) :
    ∃ since, (run.closedBeside id other).past = run.past ++ .unsubscribe id :: since := by
  refine ⟨?since, ?past⟩
  case past =>
    simp only [closedBeside, stepSampler, advance, note, List.append_assoc]
    rfl

/-- Of two feeds the first one is closed; the second one goes on, and the next subscription
fails. -/
theorem second_feed_outlasts_the_first :
    ∃ run since error,
      Reached narrow threeThenNone run
        ∧ run.past = twoFeeds.past ++ .unsubscribe "metrics-1" :: since
        ∧ run.past.issued = ["metrics-1", "metrics-2"]
        ∧ run.past.openIds = ["metrics-2"]
        ∧ run.transport.openFeeds = 1
        ∧ (∀ outcome, .sampler "metrics-1" (some outcome) ∉ since)
        ∧ run.transport.helper.log.length = 3
        ∧ (run.transport.unsubscribe "metrics-1") = run.transport
        ∧ run.transport.sampled = .error error
        ∧ run.transport.subscribe.1.registered = run.transport.registered := by
  have reached : Reached narrow threeThenNone (twoFeeds.closedBeside "metrics-1" "metrics-2") :=
    reached_twoFeeds.trans (path_closedBeside twoFeeds "metrics-1" "metrics-2")
  obtain ⟨since, hpast⟩ := exists_past_closedBeside twoFeeds "metrics-1" "metrics-2"
  have hbefore : twoFeeds.past.issued = ["metrics-1", "metrics-2"] := by
    decide +kernel
  have hview : (twoFeeds.closedBeside "metrics-1" "metrics-2").past.issued
        = ["metrics-1", "metrics-2"]
      ∧ (twoFeeds.closedBeside "metrics-1" "metrics-2").past.openIds = ["metrics-2"]
      ∧ (twoFeeds.closedBeside "metrics-1" "metrics-2").transport.helper.log.length = 3
      ∧ (twoFeeds.closedBeside "metrics-1" "metrics-2").transport.sampled.toOption.isSome
        = false := by
    decide +kernel
  generalize twoFeeds.closedBeside "metrics-1" "metrics-2" = run at *
  obtain ⟨hissued, hopen, hlog, hfailed⟩ := hview
  obtain ⟨error, herror⟩ : ∃ error, run.transport.sampled = .error error := by
    cases hsampled : run.transport.sampled with
    | ok first => simp [hsampled, Except.toOption] at hfailed
    | error error => exact ⟨error, rfl⟩
  obtain ⟨-, hregistered, hcount, hrefused, hclosing, -, hsilent⟩ :=
    registry_follows_subscriptions reached
  have hnotOpen : "metrics-1" ∉ run.transport.registered := by
    rw [hregistered, hopen]
    decide
  refine ⟨run, since, error, reached, hpast, hissued, hopen, ?_, ?_, hlog, ?_, herror, ?_⟩
  · rw [hcount, hopen]
    rfl
  · exact hsilent twoFeeds.past since "metrics-1" hpast (by rw [hbefore]; decide)
  · exact (hclosing "metrics-1").2.unopened hnotOpen
  · rw [hrefused error herror]

end TransportRun
end VpnFleet
