import Mathlib.Data.List.Induction
import VpnFleet.Proofs.History
import VpnFleet.Proofs.Traffic.Phases

/-!
# What becomes of every feed

A feed that the backend hands over is closed by the client once, and only
once: by the activation it came too late for, or by the deactivation that finds
it installed. The one feed that the client does not close is one that the
backend ended itself while it was installed; the next feed takes its place.

* `StreamHistory.slot` and `StreamHistory.unsubscribes` read off the history
  which feed is installed and how often the client closed a feed.
* `Accounted` keeps the account, on the assumption that the backend never hands
  out a feed twice.
* `Idle` says that a deactivated stream stays without a feed until the next
  activation.
-/

namespace VpnFleet

namespace StreamEvent

/-- The feed that is installed after the event. -/
def slot (held : Option ActiveFeed) : StreamEvent → Option ActiveFeed
  | settleActivate _ (.installed active) => some active
  | deactivate _ => none
  | _ => held

/-- The event closes no feed, hands none over and leaves the installed one. -/
structure Plain (event : StreamEvent) : Prop where
  slot : ∀ held, event.slot held = held
  opened : event.opened? = none
  calls : event.calls = [] ∨ event.calls = [.subscribe]

/-- An activation asks for a feed. -/
def begins : StreamEvent → Bool
  | activate generation => generation.isSome
  | _ => false

end StreamEvent

namespace StreamHistory

variable {past : StreamHistory} {event : StreamEvent} {active : ActiveFeed} {feed : String}

/-- The feed that is installed at the end of the history. -/
def slot (past : StreamHistory) : Option ActiveFeed :=
  past.foldl StreamEvent.slot none

/-- How often the client closed a feed. -/
def unsubscribes (past : StreamHistory) (feed : String) : Nat :=
  past.calls.count (.unsubscribe feed)

/-- The backend ended the feed while it was installed. -/
def EndedInSlot (past : StreamHistory) (active : ActiveFeed) : Prop :=
  ∃ (before after : StreamHistory),
    past = before ++ .feedEnded active.generation :: after
      ∧ before.slot = some active
      ∧ .finish active.generation ∈ before

/-- The backend ended a feed that had been installed. -/
def EndedByBackend (past : StreamHistory) (feed : String) : Prop :=
  ∃ (generation : Nat) (active : ActiveFeed),
    .settleActivate generation (.installed active) ∈ past
      ∧ active.feed = feed
      ∧ .finish active.generation ∈ past

/-- The backend ended the feed while it was installed, and a later one took its place. -/
def Replaced (past : StreamHistory) (feed : String) : Prop :=
  ∃ (before : StreamHistory) (generation : Nat) (successor : ActiveFeed)
      (after : StreamHistory) (active : ActiveFeed),
    past = before ++ .settleActivate generation (.installed successor) :: after
      ∧ before.slot = some active
      ∧ active.feed = feed
      ∧ before.EndedInSlot active

theorem slot_concat (past : StreamHistory) (event : StreamEvent) :
    slot (past ++ [event]) = event.slot past.slot := by
  simp [slot]

theorem unsubscribes_concat (past : StreamHistory) (event : StreamEvent) (feed : String) :
    unsubscribes (past ++ [event]) feed
      = past.unsubscribes feed + event.calls.count (.unsubscribe feed) := by
  unfold unsubscribes
  rw [calls_concat, List.count_append]

theorem unsubscribes_of_plain (h : event.Plain) (feed : String) :
    unsubscribes (past ++ [event]) feed = past.unsubscribes feed := by
  rw [unsubscribes_concat]
  rcases h.calls with hcalls | hcalls <;> simp [hcalls]

theorem opened_of_plain (h : event.Plain) : opened (past ++ [event]) = past.opened := by
  rw [opened_concat, h.opened]
  exact List.append_nil _

theorem exists_installed_of_slot (h : past.slot = some active) :
    ∃ generation, .settleActivate generation (.installed active) ∈ past := by
  induction past using List.reverseRecOn with
  | nil => cases h
  | append_singleton past event ih =>
    rw [slot_concat] at h
    have hkept (hslot : slot past = some active) :
        ∃ generation, .settleActivate generation (.installed active) ∈ past ++ [event] := by
      obtain ⟨generation, hmem⟩ := ih hslot
      exact ⟨generation, List.mem_append_left _ hmem⟩
    cases event with
    | settleActivate generation outcome =>
      cases outcome with
      | installed other =>
        cases h
        exact ⟨generation, List.mem_append_right _ (List.mem_singleton_self _)⟩
      | late feed => exact hkept h
      | refused error => exact hkept h
    | deactivate given => cases h
    | _ => exact hkept h

theorem Replaced.endedByBackend (h : past.Replaced feed) : past.EndedByBackend feed := by
  obtain ⟨before, _, _, after, active, rfl, hslot, hfeed, hended⟩ := h
  obtain ⟨earlier, between, rfl, -, hfinish⟩ := hended
  obtain ⟨generation, hmem⟩ := exists_installed_of_slot hslot
  refine ⟨generation, active, List.mem_append_left _ hmem, hfeed, ?_⟩
  exact List.mem_append_left _ (List.mem_append_left _ hfinish)

theorem EndedInSlot.concat (h : past.EndedInSlot active) (event : StreamEvent) :
    EndedInSlot (past ++ [event]) active := by
  obtain ⟨before, after, rfl, hslot, hfinish⟩ := h
  exact ⟨before, after ++ [event], by simp, hslot, hfinish⟩

theorem Replaced.concat (h : past.Replaced feed) (event : StreamEvent) :
    Replaced (past ++ [event]) feed := by
  obtain ⟨before, generation, successor, after, active, rfl, hrest⟩ := h
  exact ⟨before, generation, successor, after ++ [event], active, by simp, hrest⟩

/-- A feed is replaced by the last event or was so before. -/
theorem replaced_concat_cases (h : Replaced (past ++ [event]) feed) :
    past.Replaced feed
      ∨ ∃ generation successor active,
        event = .settleActivate generation (.installed successor)
          ∧ past.slot = some active
          ∧ active.feed = feed := by
  obtain ⟨before, generation, successor, after, active, hpast, hslot, hfeed, hended⟩ := h
  rcases History.split_concat hpast with ⟨rfl, hevent, -⟩ | ⟨rest, hbefore, -⟩
  · exact Or.inr ⟨generation, successor, active, hevent, hslot, hfeed⟩
  · exact Or.inl ⟨before, generation, successor, rest, active, hbefore, hslot, hfeed, hended⟩

theorem replaced_of_plain (hplain : event.Plain) (h : Replaced (past ++ [event]) feed) :
    past.Replaced feed := by
  rcases replaced_concat_cases h with hbefore | ⟨generation, successor, active, rfl, -, -⟩
  · exact hbefore
  · cases hplain.opened

end StreamHistory

/-- What becomes of a feed. -/
inductive FeedFate where
  /-- It is installed. -/
  | held
  /-- The client closed it. -/
  | closed
  /-- The backend ended it while it was installed, and another took its place. -/
  | replaced

namespace StreamRun

variable {run next : StreamRun} {event : StreamEvent} {feed : String}

def Holds (run : StreamRun) (feed : String) : Prop :=
  ∃ active, run.stream.active = some active ∧ active.feed = feed

/-- A feed has a fate. -/
def Meets (run : StreamRun) (feed : String) : FeedFate → Prop
  | .held => run.Holds feed ∧ run.past.unsubscribes feed = 0
  | .closed => ¬ run.Holds feed ∧ run.past.unsubscribes feed = 1
  | .replaced => run.past.Replaced feed

/-- A channel without its sender is one that the backend ended. -/
def Finished (run : StreamRun) : Prop :=
  ∀ s ∈ run.subscriptions, s.channel.sending = false → .finish s.generation ∈ run.past

theorem Finished.keep
    (h : run.Finished)
    (hsubscriptions : next.subscriptions = run.subscriptions)
    (hpast : next.past = run.past ++ [event]) :
    next.Finished := by
  intro s hs hgone
  rw [hsubscriptions] at hs
  rw [hpast]
  exact List.mem_append_left _ (h s hs hgone)

theorem Finished.set
    (h : run.Finished)
    {i : Nat} {s after : Subscription}
    (found : run.subscriptions[i]? = some s)
    (hsubscriptions : next.subscriptions = run.subscriptions.set i after)
    (hpast : next.past = run.past ++ [event])
    (hsame : after.generation = s.generation)
    (hsending : after.channel.sending = false →
      s.channel.sending = false ∨ event = .finish s.generation) :
    next.Finished := by
  intro other hother hgone
  rw [hsubscriptions] at hother
  rw [hpast]
  rcases List.mem_or_eq_of_mem_set hother with hold | rfl
  · exact List.mem_append_left _ (h other hold hgone)
  · rw [hsame]
    rcases hsending hgone with hbefore | rfl
    · exact List.mem_append_left _ (h s (List.mem_of_getElem? found) hbefore)
    · exact List.mem_append_right _ (List.mem_singleton_self _)

theorem Finished.step (h : run.Finished) (step : Step run next) : next.Finished := by
  cases step with
  | activate capacity began =>
    intro s hs hgone
    rcases List.mem_append.1 hs with hold | hnew
    · exact List.mem_append_left _ (h s hold hgone)
    · obtain rfl := List.mem_singleton.1 hnew
      cases hgone
  | passActivate passed => exact h.keep rfl rfl
  | @settleActivate answer i s stream outcome found asked settled =>
    refine h.set found rfl rfl (s.settle_generation outcome) ?_
    intro hgone
    cases outcome <;> exact Or.inl hgone
  | abandonActivate found asked => exact h.set found rfl rfl rfl Or.inl
  | deactivate cleared => exact h.keep rfl rfl
  | answerUnsubscribe feed answer issued => exact h.keep rfl rfl
  | push record found offered =>
    refine h.set found rfl rfl rfl ?_
    rcases Channel.offer_cases offered with ⟨-, -, rfl⟩ | ⟨-, rfl⟩
    · exact Or.inl
    · exact Or.inl
  | finish found => exact h.set found rfl rfl rfl fun _ => Or.inr rfl
  | @receive i s feed channel record stream goesOn found forwarded taken received =>
    obtain ⟨-, hsending, -⟩ := Channel.receive_eq_item taken
    refine h.set found rfl rfl ?_ ?_
    · cases goesOn <;> rfl
    · intro hgone
      left
      rw [← hsending]
      cases goesOn <;> exact hgone
  | feedEnded found forwarded ended => exact h.set found rfl rfl rfl Or.inl
  | stopForwarder found forwarded givenUp => exact h.set found rfl rfl rfl Or.inl
  | retire => exact h.keep rfl rfl

theorem Reached.finished (reached : Reached run) : run.Finished := by
  induction reached with
  | refl => exact fun s hs => by cases hs
  | tail _ step ih => exact ih.step step

structure Accounted (run : StreamRun) : Prop where
  slot : run.past.slot = run.stream.active
  held : ∀ feed, run.Holds feed →
    feed ∈ run.past.opened ∧ run.past.unsubscribes feed = 0
  fates : ∀ feed ∈ run.past.opened, ∃ fate, run.Meets feed fate
  /-- A feed that was not handed over yet was not closed either. -/
  unopened : ∀ feed ∉ run.past.opened, run.past.unsubscribes feed = 0
  replaced : ∀ feed, run.past.Replaced feed →
    feed ∈ run.past.opened ∧ run.past.unsubscribes feed = 0 ∧ ¬ run.Holds feed
  /-- What is installed while the stream is not active was ended by the backend. -/
  ended : run.status ≠ .active →
    ∀ active, run.stream.active = some active → run.past.EndedInSlot active

theorem accounted_new : new.Accounted where
  slot := rfl
  held := by
    rintro feed ⟨active, hslot, -⟩
    cases hslot
  fates := fun feed hfeed => by cases hfeed
  unopened := fun _ _ => rfl
  replaced := by
    rintro feed ⟨before, generation, successor, after, active, hpast, -⟩
    cases before <;> cases hpast
  ended := fun _ active hslot => by cases hslot

theorem holds_congr (hactive : next.stream.active = run.stream.active) :
    next.Holds feed ↔ run.Holds feed := by
  unfold Holds
  rw [hactive]

/-- A feed that is not touched keeps its fate. -/
theorem Meets.carry
    {fate : FeedFate}
    (hfate : run.Meets feed fate)
    (hholds : next.Holds feed ↔ run.Holds feed)
    (hcount : next.past.unsubscribes feed = run.past.unsubscribes feed)
    (hpast : next.past = run.past ++ [event]) :
    next.Meets feed fate := by
  cases fate with
  | held => exact ⟨hholds.2 hfate.1, hcount.trans hfate.2⟩
  | closed => exact ⟨fun hheld => hfate.1 (hholds.1 hheld), hcount.trans hfate.2⟩
  | replaced =>
    show next.past.Replaced feed
    rw [hpast]
    exact StreamHistory.Replaced.concat hfate event

/-- An event that touches no feed keeps the account. -/
theorem Accounted.keep
    (h : run.Accounted)
    (hplain : event.Plain)
    (hactive : next.stream.active = run.stream.active)
    (hpast : next.past = run.past ++ [event])
    (hended : next.status ≠ .active →
      ∀ active, run.stream.active = some active → next.past.EndedInSlot active) :
    next.Accounted := by
  have hopened : next.past.opened = run.past.opened := by
    rw [hpast, StreamHistory.opened_of_plain hplain]
  have hcount (feed : String) : next.past.unsubscribes feed = run.past.unsubscribes feed := by
    rw [hpast, StreamHistory.unsubscribes_of_plain hplain]
  constructor
  case slot =>
    rw [hpast, StreamHistory.slot_concat, hplain.slot, h.slot, hactive]
  case held =>
    intro feed hholds
    rw [hopened, hcount]
    exact h.held feed ((holds_congr hactive).1 hholds)
  case fates =>
    intro feed hfeed
    rw [hopened] at hfeed
    obtain ⟨fate, hfate⟩ := h.fates feed hfeed
    exact ⟨fate, hfate.carry (holds_congr hactive) (hcount feed) hpast⟩
  case unopened =>
    intro feed hfeed
    rw [hopened] at hfeed
    rw [hcount]
    exact h.unopened feed hfeed
  case replaced =>
    intro feed hreplaced
    rw [hpast] at hreplaced
    obtain ⟨hmem, hnone, hfree⟩ :=
      h.replaced feed (StreamHistory.replaced_of_plain hplain hreplaced)
    rw [hopened, hcount]
    exact ⟨hmem, hnone, fun hholds => hfree ((holds_congr hactive).1 hholds)⟩
  case ended =>
    rw [hactive]
    exact hended

/-- A step that leaves the status and the installed feed keeps the account. -/
theorem Accounted.pass
    (h : run.Accounted)
    (hplain : event.Plain)
    (hactive : next.stream.active = run.stream.active)
    (hstatus : next.status = .active ∨ run.status ≠ .active)
    (hpast : next.past = run.past ++ [event]) :
    next.Accounted := by
  refine h.keep hplain hactive hpast ?_
  intro hidle active hslot
  rw [hpast]
  exact (h.ended (hstatus.resolve_left hidle) active hslot).concat event

/-- A feed that is installed takes the place of one that the backend ended. -/
theorem Accounted.install
    (h : run.Accounted)
    {feed : String} {generation : Nat}
    (hidle : run.status ≠ .active)
    (hshown : next.status = .active)
    (hactive : next.stream.active = some { feed, generation })
    (hpast : next.past
      = run.past ++ [.settleActivate generation (.installed { feed, generation })])
    (hfresh : feed ∉ run.past.opened) :
    next.Accounted := by
  have hopened : next.past.opened = run.past.opened ++ [feed] := by
    rw [hpast, StreamHistory.opened_concat]
    rfl
  have hcount (other : String) : next.past.unsubscribes other = run.past.unsubscribes other := by
    rw [hpast, StreamHistory.unsubscribes_concat]
    rfl
  have hholds (other : String) : next.Holds other ↔ other = feed := by
    constructor
    · rintro ⟨active, hslot, rfl⟩
      cases hactive.symm.trans hslot
      rfl
    · rintro rfl
      exact ⟨_, hactive, rfl⟩
  have hne {other : String} (hother : other ∈ run.past.opened) : other ≠ feed := by
    rintro rfl
    exact hfresh hother
  have hfree {other : String} (hother : other ∈ run.past.opened) (hgone : ¬ run.Holds other) :
      next.Holds other ↔ run.Holds other :=
    iff_of_false (fun hheld => hne hother ((hholds other).1 hheld)) hgone
  constructor
  case slot =>
    rw [hpast, StreamHistory.slot_concat, hactive]
    rfl
  case held =>
    intro other hother
    obtain rfl := (hholds other).1 hother
    rw [hopened, hcount]
    exact ⟨List.mem_append_right _ (List.mem_singleton_self _), h.unopened other hfresh⟩
  case fates =>
    intro other hother
    rw [hopened] at hother
    rcases List.mem_append.1 hother with hold | hnew
    · obtain ⟨fate, hfate⟩ := h.fates other hold
      cases fate with
      | held =>
        -- the stream was not active, so the feed that it still held had ended
        obtain ⟨active, hslot, rfl⟩ := hfate.1
        refine ⟨.replaced, ?_⟩
        exact ⟨run.past, generation, { feed, generation }, [], active, hpast,
          h.slot.trans hslot, rfl, h.ended hidle active hslot⟩
      | closed => exact ⟨.closed, hfate.carry (hfree hold hfate.1) (hcount other) hpast⟩
      | replaced =>
        have hgone := (h.replaced other hfate).2.2
        exact ⟨.replaced, hfate.carry (hfree hold hgone) (hcount other) hpast⟩
    · obtain rfl := List.mem_singleton.1 hnew
      exact ⟨.held, (hholds other).2 rfl, (hcount other).trans (h.unopened other hfresh)⟩
  case unopened =>
    intro other hother
    rw [hopened] at hother
    rw [hcount]
    exact h.unopened other fun hold => hother (List.mem_append_left _ hold)
  case replaced =>
    intro other hreplaced
    rw [hpast] at hreplaced
    have hbefore : other ∈ run.past.opened ∧ run.past.unsubscribes other = 0 := by
      rcases StreamHistory.replaced_concat_cases hreplaced with
        hold | ⟨_, _, active, -, hslot, rfl⟩
      · obtain ⟨hmem, hnone, -⟩ := h.replaced other hold
        exact ⟨hmem, hnone⟩
      · exact h.held active.feed ⟨active, h.slot.symm.trans hslot, rfl⟩
    obtain ⟨hmem, hnone⟩ := hbefore
    rw [hopened, hcount]
    exact ⟨List.mem_append_left _ hmem, hnone, fun hheld => hne hmem ((hholds other).1 hheld)⟩
  case ended =>
    intro hother
    exact absurd hshown hother

/-- A feed that comes late is closed in the same step. -/
theorem Accounted.closeLate
    (h : run.Accounted)
    {feed : String} {generation : Nat}
    (hstream : next.stream = run.stream)
    (hpast : next.past = run.past ++ [.settleActivate generation (.late feed)])
    (hfresh : feed ∉ run.past.opened) :
    next.Accounted := by
  have hactive : next.stream.active = run.stream.active := by
    rw [hstream]
  have hopened : next.past.opened = run.past.opened ++ [feed] := by
    rw [hpast, StreamHistory.opened_concat]
    rfl
  have hclosed : next.past.unsubscribes feed = 1 := by
    rw [hpast, StreamHistory.unsubscribes_concat, h.unopened feed hfresh]
    simp [StreamEvent.calls]
  have hcount {other : String} (hother : other ≠ feed) :
      next.past.unsubscribes other = run.past.unsubscribes other := by
    rw [hpast, StreamHistory.unsubscribes_concat]
    simp [StreamEvent.calls, hother.symm]
  have hne {other : String} (hother : other ∈ run.past.opened) : other ≠ feed := by
    rintro rfl
    exact hfresh hother
  constructor
  case slot =>
    rw [hpast, StreamHistory.slot_concat, hactive, ← h.slot]
    rfl
  case held =>
    intro other hother
    obtain ⟨hmem, hnone⟩ := h.held other ((holds_congr hactive).1 hother)
    rw [hopened, hcount (hne hmem)]
    exact ⟨List.mem_append_left _ hmem, hnone⟩
  case fates =>
    intro other hother
    rw [hopened] at hother
    rcases List.mem_append.1 hother with hold | hnew
    · obtain ⟨fate, hfate⟩ := h.fates other hold
      exact ⟨fate, hfate.carry (holds_congr hactive) (hcount (hne hold)) hpast⟩
    · obtain rfl := List.mem_singleton.1 hnew
      refine ⟨.closed, ?_, hclosed⟩
      intro hheld
      exact hfresh (h.held other ((holds_congr hactive).1 hheld)).1
  case unopened =>
    intro other hother
    rw [hopened] at hother
    have hboth : other ∉ run.past.opened ∧ other ≠ feed := by
      simpa using hother
    rw [hcount hboth.2]
    exact h.unopened other hboth.1
  case replaced =>
    intro other hreplaced
    rw [hpast] at hreplaced
    rcases StreamHistory.replaced_concat_cases hreplaced with hold | ⟨_, _, _, hevent, -, -⟩
    · obtain ⟨hmem, hnone, hfree⟩ := h.replaced other hold
      rw [hopened, hcount (hne hmem)]
      exact ⟨List.mem_append_left _ hmem, hnone,
        fun hheld => hfree ((holds_congr hactive).1 hheld)⟩
    · cases hevent
  case ended =>
    intro hidle active hslot
    rw [hactive] at hslot
    unfold status at hidle
    rw [hstream] at hidle
    rw [hpast]
    exact (h.ended hidle active hslot).concat _

/-- A deactivation closes the feed that it finds installed. -/
theorem Accounted.deactivate
    (h : run.Accounted)
    (hactive : next.stream.active = none)
    (hpast : next.past = run.past ++ [.deactivate run.stream.active]) :
    next.Accounted := by
  have hopened : next.past.opened = run.past.opened := by
    rw [hpast, StreamHistory.opened_concat]
    exact List.append_nil _
  have hfree (other : String) : ¬ next.Holds other := by
    rintro ⟨active, hslot, -⟩
    cases hactive.symm.trans hslot
  have hclosed {other : String} (hheld : run.Holds other) :
      next.past.unsubscribes other = 1 := by
    have hnone := (h.held other hheld).2
    obtain ⟨active, hslot, rfl⟩ := hheld
    rw [hpast, StreamHistory.unsubscribes_concat, hnone, hslot]
    simp [StreamEvent.calls]
  have hcount {other : String} (hother : ¬ run.Holds other) :
      next.past.unsubscribes other = run.past.unsubscribes other := by
    rw [hpast, StreamHistory.unsubscribes_concat]
    cases hslot : run.stream.active with
    | none => rfl
    | some active =>
      have hne : active.feed ≠ other := by
        intro hsame
        exact hother ⟨active, hslot, hsame⟩
      simp [StreamEvent.calls, hne]
  constructor
  case slot =>
    rw [hpast, StreamHistory.slot_concat, hactive]
    rfl
  case held =>
    intro other hother
    exact absurd hother (hfree other)
  case fates =>
    intro other hother
    rw [hopened] at hother
    obtain ⟨fate, hfate⟩ := h.fates other hother
    cases fate with
    | held => exact ⟨.closed, hfree other, hclosed hfate.1⟩
    | closed =>
      have hgone := hfate.1
      exact ⟨.closed, hfate.carry (iff_of_false (hfree other) hgone) (hcount hgone) hpast⟩
    | replaced =>
      have hgone := (h.replaced other hfate).2.2
      exact ⟨.replaced, hfate.carry (iff_of_false (hfree other) hgone) (hcount hgone) hpast⟩
  case unopened =>
    intro other hother
    rw [hopened] at hother
    have hgone : ¬ run.Holds other := fun hheld => hother (h.held other hheld).1
    rw [hcount hgone]
    exact h.unopened other hother
  case replaced =>
    intro other hreplaced
    rw [hpast] at hreplaced
    rcases StreamHistory.replaced_concat_cases hreplaced with hold | ⟨_, _, _, hevent, -, -⟩
    · obtain ⟨hmem, hnone, hgone⟩ := h.replaced other hold
      rw [hopened, hcount hgone]
      exact ⟨hmem, hnone, hfree other⟩
    · cases hevent
  case ended =>
    intro _ active hslot
    cases hactive.symm.trans hslot

/-- The end of the installed feed is remembered. -/
theorem Accounted.endFeed
    (h : run.Accounted)
    (coherent : run.Coherent)
    (finished : run.Finished)
    {s : Subscription}
    (hs : s ∈ run.subscriptions)
    (hgone : s.channel.sending = false)
    (hshown : run.status = .active)
    (hcurrent : run.generation = s.generation)
    (hactive : next.stream.active = run.stream.active)
    (hpast : next.past = run.past ++ [.feedEnded s.generation]) :
    next.Accounted := by
  refine h.keep ⟨fun _ => rfl, rfl, Or.inl rfl⟩ hactive hpast ?_
  intro _ active hslot
  obtain ⟨feed, hinstalled, -⟩ := coherent.held hshown
  have hgeneration : active.generation = s.generation := by
    rw [hinstalled] at hslot
    cases hslot
    exact hcurrent
  refine ⟨run.past, [], ?_, h.slot.trans hslot, ?_⟩
  · rw [hpast, hgeneration]
  · rw [hgeneration]
    exact finished s hs hgone

theorem Accounted.step
    (h : run.Accounted)
    (coherent : run.Coherent)
    (finished : run.Finished)
    (distinct : next.past.opened.Nodup)
    (step : Step run next) :
    next.Accounted := by
  -- a feed handed over in this step was not handed over before
  have hfresh {feed : String} {event : StreamEvent}
      (hpast : next.past = run.past ++ [event]) (hopened : event.opened? = some feed) :
      feed ∉ run.past.opened := by
    rw [hpast, StreamHistory.opened_concat, hopened] at distinct
    intro hmem
    exact (List.nodup_append.1 distinct).2.2 feed hmem feed (List.mem_singleton_self _) rfl
  cases step with
  | activate capacity began =>
    obtain ⟨hidle, -, -, hactive⟩ := Stream.beginActivate_eq_some began
    have hbefore : run.status ≠ .active := by
      intro hshown
      rw [show run.stream.snapshot.status = .active from hshown] at hidle
      cases hidle
    exact h.pass ⟨fun _ => rfl, rfl, Or.inr rfl⟩ hactive (Or.inr hbefore) rfl
  | passActivate passed =>
    obtain ⟨-, rfl⟩ := Stream.beginActivate_eq_none passed
    exact h.pass ⟨fun _ => rfl, rfl, Or.inl rfl⟩ rfl (em _) rfl
  | @settleActivate answer i s stream outcome found asked settled =>
    rcases Stream.settleActivate_cases settled with
      ⟨feed, rfl, -, -, -, hopening, hsnapshot, hactive⟩ | ⟨feed, rfl, -, -, rfl⟩
        | ⟨message, rfl, -, hcurrent, -, hactive⟩ | ⟨message, rfl, -, -, rfl⟩
    · have hidle : run.status ≠ .active := by
        rw [show run.status = .opening from hopening]
        exact nofun
      exact h.install hidle (congrArg StreamSnapshot.status hsnapshot) hactive rfl
        (hfresh rfl rfl)
    · exact h.closeLate rfl rfl (hfresh rfl rfl)
    · have hopening := coherent.asked s (List.mem_of_getElem? found) asked hcurrent.symm
      have hidle : run.status ≠ .active := by
        rw [hopening]
        exact nofun
      exact h.pass ⟨fun _ => rfl, rfl, Or.inl rfl⟩ hactive (Or.inr hidle) rfl
    · exact h.pass ⟨fun _ => rfl, rfl, Or.inl rfl⟩ rfl (em _) rfl
  | deactivate cleared =>
    obtain ⟨-, hnone, rfl⟩ := Stream.deactivate_eq cleared
    exact h.deactivate hnone rfl
  | receive found forwarded taken received =>
    rcases Stream.receive_cases received with ⟨-, -, -, hshown, hsnapshot, hactive⟩ | ⟨-, -, rfl⟩
    · have hstatus := (congrArg StreamSnapshot.status hsnapshot).trans hshown
      exact h.pass ⟨fun _ => rfl, rfl, Or.inl rfl⟩ hactive (Or.inl hstatus) rfl
    · exact h.pass ⟨fun _ => rfl, rfl, Or.inl rfl⟩ rfl (em _) rfl
  | @feedEnded i s feed channel found forwarded ended =>
    rcases Stream.feedEnded_cases run.stream run.alive s.generation with
      ⟨-, hcurrent, hshown, -, hactive⟩ | ⟨-, hsame⟩
    · exact h.endFeed coherent finished (List.mem_of_getElem? found)
        (Channel.receive_eq_closed ended).2 hshown hcurrent hactive rfl
    · refine h.pass ⟨fun _ => rfl, rfl, Or.inl rfl⟩ (congrArg Stream.active hsame) ?_ rfl
      have hstatus : (run.stream.feedEnded run.alive s.generation).snapshot.status = run.status :=
        congrArg (·.snapshot.status) hsame
      rw [← hstatus]
      exact em _
  | _ => exact h.pass ⟨fun _ => rfl, rfl, Or.inl rfl⟩ rfl (em _) rfl

theorem Reached.accounted
    (reached : Reached run) (distinct : run.past.opened.Nodup) : run.Accounted := by
  induction reached with
  | refl => exact accounted_new
  | @tail mid last reached step ih =>
    obtain ⟨event, hpast⟩ := step.exists_past_eq
    have hbefore : mid.past.opened.Nodup := by
      rw [hpast, StreamHistory.opened_concat] at distinct
      exact distinct.of_append_left
    exact (ih hbefore).step (Reached.coherent reached) (Reached.finished reached) distinct step

theorem Accounted.existsUnique_fate (h : run.Accounted) (hfeed : feed ∈ run.past.opened) :
    ∃! fate, run.Meets feed fate := by
  obtain ⟨fate, hfate⟩ := h.fates feed hfeed
  refine ⟨fate, hfate, ?_⟩
  intro other hother
  cases fate with
  | held =>
    cases other with
    | held => rfl
    | closed => exact absurd hfate.1 hother.1
    | replaced => exact absurd hfate.1 (h.replaced feed hother).2.2
  | closed =>
    cases other with
    | held => exact absurd hother.1 hfate.1
    | closed => rfl
    | replaced =>
      have hnone := (h.replaced feed hother).2.1
      rw [hfate.2] at hnone
      cases hnone
  | replaced =>
    obtain ⟨-, hnone, hfree⟩ := h.replaced feed hfate
    cases other with
    | held => exact absurd hother.1 hfree
    | closed =>
      rw [hother.2] at hnone
      cases hnone
    | replaced => rfl

theorem Accounted.unsubscribes_le_one (h : run.Accounted) (feed : String) :
    run.past.unsubscribes feed ≤ 1 := by
  by_cases hfeed : feed ∈ run.past.opened
  · obtain ⟨fate, hfate⟩ := h.fates feed hfeed
    cases fate with
    | held =>
      rw [hfate.2]
      exact Nat.zero_le _
    | closed => exact Nat.le_of_eq hfate.2
    | replaced =>
      rw [(h.replaced feed hfate).2.1]
      exact Nat.zero_le _
  · rw [h.unopened feed hfeed]
    exact Nat.zero_le _

/-- Nothing is installed, and nothing is awaited. -/
def Idle (run : StreamRun) : Prop :=
  run.stream.active = none ∧ run.status = .inactive

theorem idle_of_deactivate {given : Option ActiveFeed}
    (step : Step run next) (hpast : next.past = run.past ++ [.deactivate given]) :
    next.Idle := by
  cases step with
  | deactivate cleared =>
    obtain ⟨hsnapshot, hnone, -⟩ := Stream.deactivate_eq cleared
    exact ⟨hnone, congrArg StreamSnapshot.status hsnapshot⟩
  | _ => cases List.append_cancel_left hpast

/-- A stream that is idle stays so until an activation asks for a feed. -/
theorem Idle.step
    (h : run.Idle)
    (coherent : run.Coherent)
    (step : Step run next)
    (hpast : next.past = run.past ++ [event])
    (hbegins : event.begins = false) :
    next.Idle := by
  obtain ⟨hnone, hinactive⟩ := h
  have hinactive' : run.stream.snapshot.status = .inactive := hinactive
  cases step with
  | activate capacity began =>
    cases List.append_cancel_left hpast
    cases hbegins
  | passActivate passed =>
    obtain ⟨-, rfl⟩ := Stream.beginActivate_eq_none passed
    exact ⟨hnone, hinactive⟩
  | @settleActivate answer i s stream outcome found asked settled =>
    rcases Stream.settleActivate_cases settled with
      ⟨feed, -, -, -, -, hopening, -⟩ | ⟨feed, -, -, -, rfl⟩
        | ⟨message, -, -, hcurrent, -⟩ | ⟨message, -, -, -, rfl⟩
    · cases hinactive'.symm.trans hopening
    · exact ⟨hnone, hinactive⟩
    · -- the subscription under way is of an earlier generation
      have hopening := coherent.asked s (List.mem_of_getElem? found) asked hcurrent.symm
      cases hinactive.symm.trans hopening
    · exact ⟨hnone, hinactive⟩
  | deactivate cleared =>
    obtain ⟨hsnapshot, hcleared, -⟩ := Stream.deactivate_eq cleared
    exact ⟨hcleared, congrArg StreamSnapshot.status hsnapshot⟩
  | receive found forwarded taken received =>
    rcases Stream.receive_cases received with ⟨-, -, -, hshown, -⟩ | ⟨-, -, rfl⟩
    · cases hinactive'.symm.trans hshown
    · exact ⟨hnone, hinactive⟩
  | @feedEnded i s feed channel found forwarded ended =>
    rcases Stream.feedEnded_cases run.stream run.alive s.generation with
      ⟨-, -, hshown, -⟩ | ⟨-, hsame⟩
    · cases hinactive'.symm.trans hshown
    · have hstatus := congrArg (·.snapshot.status) hsame
      exact ⟨(congrArg Stream.active hsame).trans hnone, hstatus.trans hinactive⟩
  | _ => exact ⟨hnone, hinactive⟩

theorem Reached.idle
    (reached : Reached run)
    {before after : StreamHistory} {given : Option ActiveFeed}
    (hpast : run.past = before ++ .deactivate given :: after)
    (hafter : ∀ event ∈ after, event.begins = false) :
    run.Idle := by
  induction reached generalizing after with
  | refl => cases before <;> cases hpast
  | @tail mid last reached step ih =>
    obtain ⟨event, hlast⟩ := step.exists_past_eq
    rcases History.split_concat (hlast.symm.trans hpast) with ⟨-, rfl, -⟩ | ⟨rest, hmid, rfl⟩
    · exact idle_of_deactivate step hlast
    · have hidle := ih hmid fun other hother => hafter other (List.mem_append_left _ hother)
      exact hidle.step (Reached.coherent reached) step hlast (hafter event (by simp))

/-- Every feed that was handed over is installed, or was closed once, or was ended by the backend
and replaced; and a stream that was deactivated has closed all that the backend did not end. -/
theorem feeds_are_closed_once
    (reached : Reached run) (distinct : run.past.opened.Nodup) :
    (∀ feed ∈ run.past.opened,
      (∃! fate, run.Meets feed fate) ∧ run.past.unsubscribes feed ≤ 1)
      ∧ ∀ (before after : StreamHistory) (given : Option ActiveFeed),
        run.past = before ++ .deactivate given :: after →
        (∀ event ∈ after, event.begins = false) →
        ∀ feed ∈ run.past.opened, ¬ run.past.EndedByBackend feed →
          run.past.unsubscribes feed = 1 := by
  have accounted := reached.accounted distinct
  refine ⟨?_, ?_⟩
  · intro feed hfeed
    exact ⟨accounted.existsUnique_fate hfeed, accounted.unsubscribes_le_one feed⟩
  · intro before after given hpast hafter feed hfeed hlasting
    obtain ⟨hnone, -⟩ := reached.idle hpast hafter
    obtain ⟨fate, hfate⟩ := accounted.fates feed hfeed
    cases fate with
    | held =>
      obtain ⟨active, hslot, -⟩ := hfate.1
      cases hnone.symm.trans hslot
    | closed => exact hfate.2
    | replaced => exact absurd (StreamHistory.Replaced.endedByBackend hfate) hlasting

theorem three_feeds_three_fates :
    ∃ run closed, Reached run ∧ Step run closed
      ∧ run.past.opened = ["feed-1", "feed-2", "feed-3"]
      ∧ run.past.opened.Nodup
      ∧ run.Meets "feed-1" .closed
      ∧ run.Meets "feed-2" .replaced
      ∧ run.Meets "feed-3" .held
      ∧ closed.past.opened.Nodup
      ∧ ¬ closed.past.EndedByBackend "feed-3"
      ∧ closed.past.unsubscribes "feed-3" = 1 := by
  obtain ⟨run, reached, hpast, hactive⟩ : ∃ run, Reached run
      ∧ run.past
        = [.activate (some 1), .deactivate none, .settleActivate 1 (.late "feed-1"),
          .activate (some 3), .settleActivate 3 (.installed ⟨"feed-2", 3⟩), .finish 3,
          .feedEnded 3, .activate (some 4), .settleActivate 4 (.installed ⟨"feed-3", 4⟩)]
      ∧ run.stream.active = some ⟨"feed-3", 4⟩ := by
    -- the first feed comes too late
    have late : Reached _ :=
      ((Relation.ReflTransGen.refl.tail (@Step.activate new 4 _ _ rfl)).tail
        (@Step.deactivate _ _ _ rfl)).tail
        (@Step.settleActivate _ (.ok "feed-1") 0 _ _ _ rfl rfl rfl)
    -- the backend ends the second, and the third takes its place
    have ended := (((late.tail (@Step.activate _ 4 _ _ rfl)).tail
      (@Step.settleActivate _ (.ok "feed-2") 1 _ _ _ rfl rfl rfl)).tail
      (@Step.finish _ 1 _ rfl)).tail (@Step.feedEnded _ 1 _ "feed-2" _ rfl rfl rfl)
    have reached := (ended.tail (@Step.activate _ 4 _ _ rfl)).tail
      (@Step.settleActivate _ (.ok "feed-3") 2 _ _ _ rfl rfl rfl)
    exact ⟨_, reached, rfl, rfl⟩
  have closing : Step run _ := @Step.deactivate run _ _ rfl
  have hopened : run.past.opened = ["feed-1", "feed-2", "feed-3"] := by
    rw [hpast]
    rfl
  have hnodup : run.past.opened.Nodup := by
    rw [hopened]
    decide
  have holds (feed : String) : run.Holds feed ↔ feed = "feed-3" := by
    unfold Holds
    rw [hactive]
    simp [eq_comm]
  obtain ⟨hfates, -⟩ := feeds_are_closed_once reached hnodup
  obtain ⟨⟨fate, hfate, -⟩, -⟩ := hfates "feed-2" (by rw [hopened]; decide)
  refine ⟨run, _, reached, closing, hopened, hnodup, ⟨?_, ?_⟩, ?_, ⟨?_, ?_⟩, ?_⟩
  · rw [holds]
    decide
  · rw [hpast]
    rfl
  · cases fate with
    | held => exact absurd ((holds _).1 hfate.1) (by decide)
    | closed =>
      have hnone := hfate.2
      rw [hpast] at hnone
      cases hnone
    | replaced => exact hfate
  · exact (holds _).2 rfl
  · rw [hpast]
    rfl
  · have hopenedLater : StreamHistory.opened (run.past ++ [.deactivate run.stream.active])
        = ["feed-1", "feed-2", "feed-3"] := by
      rw [StreamHistory.opened_concat, hopened]
      rfl
    have hlasting : ¬ StreamHistory.EndedByBackend
        (run.past ++ [.deactivate run.stream.active]) "feed-3" := by
      rw [hpast]
      rintro ⟨generation, active, hinstalled, hfeed, hfinish⟩
      simp at hinstalled hfinish
      obtain ⟨-, rfl⟩ | ⟨-, rfl⟩ := hinstalled
      · exact absurd hfeed (by decide)
      · cases hfinish
    have hnodupLater : StreamHistory.opened (run.past ++ [.deactivate run.stream.active])
        |>.Nodup := by
      rw [hopenedLater]
      decide
    obtain ⟨-, hclosed⟩ := feeds_are_closed_once (reached.tail closing) hnodupLater
    refine ⟨hnodupLater, hlasting, ?_⟩
    refine hclosed run.past [] _ rfl (fun _ hevent => by cases hevent) "feed-3" ?_ hlasting
    show "feed-3" ∈ StreamHistory.opened (run.past ++ [.deactivate run.stream.active])
    rw [hopenedLater]
    decide

end StreamRun
end VpnFleet
