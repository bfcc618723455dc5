import VpnFleet.Proofs.Traffic.Run

/-!
# The phases of a traffic stream

The status, the counters, the installed feed and the subscriptions under way
change in different steps, but they always fit together. `Coherent` holds in
every run: counters are there only while the stream is active, an active stream
has the feed of its own generation installed, and a subscription of the present
generation is asked for only while the stream is opening.
-/

namespace VpnFleet

/-- The subscriptions go on at most; none is asked for anew. -/
structure Subscription.Advanced (old new : List Subscription) : Prop where
  generations : new.map Subscription.generation = old.map Subscription.generation
  asked : ∀ s ∈ new, s.stage = .asked →
    ∃ before ∈ old, before.generation = s.generation ∧ before.stage = .asked

namespace Subscription

variable {subscriptions : List Subscription} {s later : Subscription} {i : Nat}

theorem Advanced.refl (subscriptions : List Subscription) :
    Advanced subscriptions subscriptions where
  generations := rfl
  asked := fun s hs hasked => ⟨s, hs, rfl, hasked⟩

theorem Advanced.set
    (found : subscriptions[i]? = some s)
    (hgeneration : later.generation = s.generation)
    (hasked : later.stage = .asked → s.stage = .asked) :
    Advanced subscriptions (subscriptions.set i later) where
  generations := Keyed.map_set_eq found hgeneration
  asked := by
    intro other hother hstage
    rcases List.mem_or_eq_of_mem_set hother with hold | rfl
    · exact ⟨other, hold, rfl, hstage⟩
    · exact ⟨s, List.mem_of_getElem? found, hgeneration.symm, hasked hstage⟩

theorem Advanced.generation_le
    {old new : List Subscription} {bound : Nat}
    (h : Advanced old new)
    (hold : ∀ s ∈ old, s.generation ≤ bound) :
    ∀ s ∈ new, s.generation ≤ bound := by
  intro s hs
  have hmem : s.generation ∈ old.map Subscription.generation := by
    rw [← h.generations]
    exact List.mem_map_of_mem hs
  obtain ⟨before, hbefore, hsame⟩ := List.mem_map.1 hmem
  have hle := hold before hbefore
  omega

end Subscription

namespace StreamRun

open Subscription (Advanced)

variable {run next : StreamRun} {event : StreamEvent}

/-- The installed feed is the one that the activation of the present generation was handed. -/
def Installed (run : StreamRun) : Prop :=
  ∃ feed,
    run.stream.active = some { feed, generation := run.generation }
      ∧ .settleActivate run.generation (.installed { feed, generation := run.generation })
        ∈ run.past

structure Coherent (run : StreamRun) : Prop where
  /-- No two subscriptions have the same generation. -/
  distinct : (run.subscriptions.map Subscription.generation).Nodup
  bounded : ∀ s ∈ run.subscriptions, s.generation ≤ run.generation
  asked : ∀ s ∈ run.subscriptions,
    s.stage = .asked → s.generation = run.generation → run.status = .opening
  held : run.status = .active → run.Installed
  quiet : run.status ≠ .active → run.stream.snapshot.traffic = none

theorem coherent_new : new.Coherent where
  distinct := List.nodup_nil
  bounded := fun s hs => by cases hs
  asked := fun s hs => by cases hs
  held := fun hactive => by cases hactive
  quiet := fun _ => rfl

theorem Installed.concat
    (h : run.Installed)
    (hactive : next.stream.active = run.stream.active)
    (hgeneration : next.generation = run.generation)
    (hpast : next.past = run.past ++ [event]) :
    next.Installed := by
  obtain ⟨feed, hslot, hmem⟩ := h
  refine ⟨feed, ?_, ?_⟩
  · rw [hactive, hgeneration, hslot]
  · rw [hgeneration, hpast]
    exact List.mem_append_left _ hmem

/-- A step that leaves the stream keeps it coherent. -/
theorem Coherent.keep
    (h : run.Coherent)
    (hstream : next.stream = run.stream)
    (hsubscriptions : Advanced run.subscriptions next.subscriptions)
    (hpast : next.past = run.past ++ [event]) :
    next.Coherent := by
  have hgeneration : next.generation = run.generation := by
    unfold generation
    rw [hstream]
  have hstatus : next.status = run.status := by
    unfold status
    rw [hstream]
  constructor
  case distinct =>
    rw [hsubscriptions.generations]
    exact h.distinct
  case bounded =>
    rw [hgeneration]
    exact hsubscriptions.generation_le h.bounded
  case asked =>
    intro s hs hstage hcurrent
    obtain ⟨before, hbefore, hsame, hasked⟩ := hsubscriptions.asked s hs hstage
    rw [hstatus]
    exact h.asked before hbefore hasked (hsame.trans (hcurrent.trans hgeneration))
  case held =>
    intro hactive
    rw [hstatus] at hactive
    exact (h.held hactive).concat (by rw [hstream]) hgeneration hpast
  case quiet =>
    intro hidle
    rw [hstatus] at hidle
    rw [hstream]
    exact h.quiet hidle

/-- A step that changes the stream keeps it coherent if it leaves no subscription of the
generation that follows unanswered. -/
theorem Coherent.answer
    (h : run.Coherent)
    (hsubscriptions : Advanced run.subscriptions next.subscriptions)
    (hgeneration : run.generation ≤ next.generation)
    (hanswered : ∀ s ∈ next.subscriptions, s.generation = next.generation → s.stage ≠ .asked)
    (hheld : next.status = .active → next.Installed)
    (hquiet : next.status ≠ .active → next.stream.snapshot.traffic = none) :
    next.Coherent := by
  refine ⟨?_, ?_, ?_, hheld, hquiet⟩
  · rw [hsubscriptions.generations]
    exact h.distinct
  · intro s hs
    have hle := hsubscriptions.generation_le h.bounded s hs
    omega
  · intro s hs hstage hcurrent
    exact absurd hstage (hanswered s hs hcurrent)

/-- While the stream is active, no subscription of its generation is under way, nor is one after a
step of the others. -/
theorem Coherent.stage_ne_asked
    (h : run.Coherent) (hshown : run.status = .active)
    {later : List Subscription} (hlater : Advanced run.subscriptions later)
    {s : Subscription} (hs : s ∈ later) (hcurrent : s.generation = run.generation) :
    s.stage ≠ .asked := by
  intro hstage
  obtain ⟨before, hbefore, hsame, hasked⟩ := hlater.asked s hs hstage
  have hopening := h.asked before hbefore hasked (hsame.trans hcurrent)
  rw [hshown] at hopening
  cases hopening

theorem Coherent.activate
    (h : run.Coherent)
    {stream : Stream} {generation capacity : Nat}
    (began : run.stream.beginActivate = (stream, some generation))
    (hstream : next.stream = stream)
    (hsubscriptions : next.subscriptions = run.subscriptions
      ++ [{ generation, channel := Channel.new capacity, stage := .asked }]) :
    next.Coherent := by
  subst hstream
  obtain ⟨hidle, hahead, hsnapshot, -⟩ := Stream.beginActivate_eq_some began
  have hgeneration : next.generation = generation :=
    congrArg StreamSnapshot.generation hsnapshot
  have hstatus : next.status = .opening :=
    congrArg StreamSnapshot.status hsnapshot
  have htraffic : next.stream.snapshot.traffic = run.stream.snapshot.traffic := by
    rw [hsnapshot]
  have hbehind : ∀ s ∈ run.subscriptions, s.generation < generation := by
    intro s hs
    have hle : s.generation ≤ run.stream.snapshot.generation := h.bounded s hs
    omega
  constructor
  case distinct =>
    rw [hsubscriptions, List.map_append, List.nodup_append]
    refine ⟨h.distinct, List.nodup_singleton _, ?_⟩
    intro a ha b hb
    obtain ⟨s, hs, rfl⟩ := List.mem_map.1 ha
    obtain rfl : b = generation := by
      simpa using hb
    exact Nat.ne_of_lt (hbehind s hs)
  case bounded =>
    intro s hs
    rw [hsubscriptions] at hs
    rw [hgeneration]
    rcases List.mem_append.1 hs with hold | hnew
    · exact Nat.le_of_lt (hbehind s hold)
    · obtain rfl := List.mem_singleton.1 hnew
      exact Nat.le_refl _
  case asked =>
    intro _ _ _ _
    exact hstatus
  case held =>
    intro hshown
    rw [hstatus] at hshown
    cases hshown
  case quiet =>
    intro _
    rw [htraffic]
    refine h.quiet ?_
    intro hshown
    have hactive : run.stream.snapshot.status = .active := hshown
    rw [hactive] at hidle
    cases hidle

theorem Coherent.settle
    (h : run.Coherent)
    {answer : Except String String} {i : Nat} {s : Subscription}
    {stream : Stream} {outcome : Subscribed}
    (found : run.subscriptions[i]? = some s)
    (settled : run.stream.settleActivate run.alive s.generation answer = (stream, outcome))
    (hstream : next.stream = stream)
    (hsubscriptions : next.subscriptions = run.subscriptions.set i (s.settle outcome))
    (hpast : next.past = run.past ++ [.settleActivate s.generation outcome]) :
    next.Coherent := by
  subst hstream
  have hadvanced : Advanced run.subscriptions next.subscriptions := by
    rw [hsubscriptions]
    exact Advanced.set found (s.settle_generation outcome)
      fun hstage => absurd hstage (s.settle_stage_ne_asked outcome)
  -- the subscription of the generation is the one that was answered
  have hanswered : ∀ other ∈ next.subscriptions,
      other.generation = s.generation → other.stage ≠ .asked := by
    intro other hother hsame
    rw [hsubscriptions] at hother
    have hone : other = s.settle outcome :=
      Keyed.eq_of_mem_set h.distinct found (s.settle_generation outcome) hother hsame
    rw [hone]
    exact s.settle_stage_ne_asked outcome
  rcases Stream.settleActivate_cases settled with
    ⟨feed, rfl, -, -, hcurrent, -, hsnapshot, hactive⟩ | ⟨feed, rfl, -, -, hsame⟩
      | ⟨message, rfl, -, hcurrent, hsnapshot, -⟩ | ⟨message, rfl, -, -, hsame⟩
  · have hgeneration : next.generation = s.generation :=
      (congrArg StreamSnapshot.generation hsnapshot).trans hcurrent
    have hstatus : next.status = .active :=
      congrArg StreamSnapshot.status hsnapshot
    refine h.answer hadvanced (Nat.le_of_eq (hcurrent.trans hgeneration.symm)) ?_ ?_ ?_
    · rw [hgeneration]
      exact hanswered
    · intro _
      refine ⟨feed, ?_, ?_⟩
      · rw [hgeneration]
        exact hactive
      · rw [hgeneration, hpast]
        exact List.mem_append_right _ (List.mem_singleton_self _)
    · intro hidle
      exact absurd hstatus hidle
  · exact h.keep hsame hadvanced hpast
  · have hgeneration : next.generation = s.generation :=
      (congrArg StreamSnapshot.generation hsnapshot).trans hcurrent
    have hstatus : next.status = .unavailable message :=
      congrArg StreamSnapshot.status hsnapshot
    refine h.answer hadvanced (Nat.le_of_eq (hcurrent.trans hgeneration.symm)) ?_ ?_ ?_
    · rw [hgeneration]
      exact hanswered
    · intro hshown
      rw [hstatus] at hshown
      cases hshown
    · intro _
      exact congrArg StreamSnapshot.traffic hsnapshot
  · exact h.keep hsame hadvanced hpast

theorem Coherent.step (h : run.Coherent) (step : Step run next) : next.Coherent := by
  cases step with
  | activate capacity began => exact h.activate began rfl rfl
  | passActivate passed =>
    obtain ⟨_, rfl⟩ := Stream.beginActivate_eq_none passed
    exact h.keep rfl (Advanced.refl _) rfl
  | settleActivate answer found asked settled => exact h.settle found settled rfl rfl rfl
  | abandonActivate found asked => exact h.keep rfl (Advanced.set found rfl nofun) rfl
  | @deactivate stream given cleared =>
    obtain ⟨hsnapshot, -, -⟩ := Stream.deactivate_eq cleared
    have hgeneration : stream.snapshot.generation = run.generation + 1 :=
      congrArg StreamSnapshot.generation hsnapshot
    have hstatus : stream.snapshot.status = .inactive :=
      congrArg StreamSnapshot.status hsnapshot
    refine h.answer (Advanced.refl _) (by show _ ≤ stream.snapshot.generation; omega) ?_ ?_ ?_
    · intro s hs hcurrent
      have hle := h.bounded s hs
      have hahead : s.generation = stream.snapshot.generation := hcurrent
      omega
    · intro hshown
      have hboth : StreamStatus.inactive = .active := hstatus.symm.trans hshown
      cases hboth
    · intro _
      exact congrArg StreamSnapshot.traffic hsnapshot
  | answerUnsubscribe feed answer issued => exact h.keep rfl (Advanced.refl _) rfl
  | push record found offered => exact h.keep rfl (Advanced.set found rfl id) rfl
  | finish found => exact h.keep rfl (Advanced.set found rfl id) rfl
  | @receive i s feed channel record stream goesOn found forwarded taken received =>
    have hadvanced : Advanced run.subscriptions
        (run.subscriptions.set i
          (if goesOn then { s with channel } else { s with channel }.close)) := by
      refine Advanced.set found ?_ ?_
      · cases goesOn <;> rfl
      · intro hstage
        cases goesOn with
        | true => exact hstage
        | false => cases hstage
    rcases Stream.receive_cases received with
      ⟨-, -, -, hshown, hsnapshot, hactive⟩ | ⟨-, -, rfl⟩
    · have hgeneration : stream.snapshot.generation = run.generation := by
        rw [hsnapshot]
        rfl
      have hstatus : stream.snapshot.status = .active := by
        rw [hsnapshot]
        exact hshown
      refine h.answer hadvanced (Nat.le_of_eq hgeneration.symm) ?_ ?_ ?_
      · intro other hother hcurrent
        exact h.stage_ne_asked hshown hadvanced hother (hcurrent.trans hgeneration)
      · intro _
        exact (h.held hshown).concat hactive hgeneration rfl
      · intro hidle
        exact absurd hstatus hidle
    · exact h.keep rfl hadvanced rfl
  | @feedEnded i s feed channel found forwarded ended =>
    have hadvanced : Advanced run.subscriptions (run.subscriptions.set i s.close) :=
      Advanced.set found rfl nofun
    rcases Stream.feedEnded_cases run.stream run.alive s.generation with
      ⟨-, -, hshown, hsnapshot, -⟩ | ⟨-, hsame⟩
    · have hgeneration :
          (run.stream.feedEnded run.alive s.generation).snapshot.generation
            = run.generation := by
        rw [hsnapshot]
        rfl
      have hstatus :
          (run.stream.feedEnded run.alive s.generation).snapshot.status = .feedClosed :=
        congrArg StreamSnapshot.status hsnapshot
      refine h.answer hadvanced (Nat.le_of_eq hgeneration.symm) ?_ ?_ ?_
      · intro other hother hcurrent
        exact h.stage_ne_asked hshown hadvanced hother (hcurrent.trans hgeneration)
      · intro hactive
        have hboth : StreamStatus.feedClosed = .active := hstatus.symm.trans hactive
        cases hboth
      · intro _
        exact congrArg StreamSnapshot.traffic hsnapshot
    · exact h.keep hsame hadvanced rfl
  | stopForwarder found forwarded givenUp =>
    exact h.keep rfl (Advanced.set found rfl nofun) rfl
  | retire => exact h.keep rfl (Advanced.refl _) rfl

theorem Reached.coherent (reached : Reached run) : run.Coherent := by
  induction reached with
  | refl => exact coherent_new
  | tail _ step ih => exact ih.step step

end StreamRun
end VpnFleet
