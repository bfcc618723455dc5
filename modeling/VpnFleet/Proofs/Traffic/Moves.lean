import VpnFleet.Proofs.Published
import VpnFleet.Proofs.Traffic.Operations

/-!
# Moves of a stream

Whatever runs, the traffic stream changes only through its own operations.
`Move` lists what one step can make of it.

* A move publishes what it changes of the status and the counters. The
  generation is exempt: a deactivation of an inactive stream moves it on
  silently.
* No move takes the generation back.
-/

namespace VpnFleet

/-- What a watcher of the stream reads. -/
def StreamSnapshot.display (snapshot : StreamSnapshot) : StreamStatus × Option Traffic :=
  (snapshot.status, snapshot.traffic)

namespace Stream

/-- One step of some operation on the stream. -/
inductive Move (alive : Bool) (stream : Stream) : Stream → Prop
  | stay : Move alive stream stream
  | beginActivate : Move alive stream stream.beginActivate.1
  | settleActivate (generation : Nat) (answer : Except String String) :
      Move alive stream (stream.settleActivate alive generation answer).1
  | deactivate : Move alive stream stream.deactivate.1
  | receive (generation : Nat) (record : TrafficRecord) :
      Move alive stream (stream.receive alive generation record).1
  | feedEnded (generation : Nat) : Move alive stream (stream.feedEnded alive generation)

/-- What is shown stays with its publication, or something is published. -/
def Notifies (stream next : Stream) : Prop :=
  stream.published.Notifies StreamSnapshot.display next.published

variable {stream next : Stream} {alive : Bool}

theorem Notifies.refl (stream : Stream) : stream.Notifies stream :=
  Published.Notifies.refl _ _

theorem publish_notifies (stream : Stream) (snapshot : StreamSnapshot) :
    stream.Notifies (stream.publish snapshot) :=
  Published.replace_notifies _ _ _

theorem beginActivate_notifies (stream : Stream) : stream.Notifies stream.beginActivate.1 := by
  by_cases hengaged : stream.snapshot.status.isEngaged = true
  · simp [beginActivate, hengaged, Notifies.refl]
  · simp [beginActivate, hengaged, publish_notifies]

theorem settleActivate_notifies
    (stream : Stream) (alive : Bool) (generation : Nat) (answer : Except String String) :
    stream.Notifies (stream.settleActivate alive generation answer).1 := by
  cases answer with
  | ok feed =>
    by_cases hcurrent : (alive && stream.awaits generation) = true
    · have hpublished := stream.publish_notifies { stream.snapshot with status := .active }
      rw [settleActivate, if_pos hcurrent]
      exact hpublished
    · simp [settleActivate, hcurrent, Notifies.refl]
  | error message =>
    by_cases hcurrent : stream.snapshot.generation = generation
    · simp [settleActivate, hcurrent, publish_notifies]
    · simp [settleActivate, hcurrent, Notifies.refl]

/-- A deactivation without a publication found the stream inactive and without counters. -/
theorem deactivate_notifies (stream : Stream) : stream.Notifies stream.deactivate.1 := by
  refine Published.update_notifies ?_
  intro hunpublished
  obtain ⟨hstatus, htraffic⟩ :
      stream.snapshot.status = .inactive ∧ stream.snapshot.traffic = none := by
    simpa using hunpublished
  show (StreamStatus.inactive, none) = (stream.snapshot.status, stream.snapshot.traffic)
  rw [hstatus, htraffic]

theorem receive_notifies
    (stream : Stream) (alive : Bool) (generation : Nat) (record : TrafficRecord) :
    stream.Notifies (stream.receive alive generation record).1 := by
  by_cases hcurrent : (alive && stream.shows generation) = true
  · simp [receive, hcurrent, publish_notifies]
  · simp [receive, hcurrent, Notifies.refl]

theorem feedEnded_notifies (stream : Stream) (alive : Bool) (generation : Nat) :
    stream.Notifies (stream.feedEnded alive generation) := by
  by_cases hcurrent : (alive && stream.shows generation) = true
  · simp [feedEnded, hcurrent, publish_notifies]
  · simp [feedEnded, hcurrent, Notifies.refl]

/-- A change of the status or of the counters is published. -/
theorem Move.notifies (move : Move alive stream next) : stream.Notifies next := by
  cases move with
  | stay => exact Notifies.refl stream
  | beginActivate => exact beginActivate_notifies stream
  | settleActivate generation answer =>
    exact settleActivate_notifies stream alive generation answer
  | deactivate => exact deactivate_notifies stream
  | receive generation record => exact receive_notifies stream alive generation record
  | feedEnded generation => exact feedEnded_notifies stream alive generation

@[simp]
theorem publish_snapshot (stream : Stream) (snapshot : StreamSnapshot) :
    (stream.publish snapshot).snapshot = snapshot := rfl

theorem Move.generation_le (move : Move alive stream next) :
    stream.snapshot.generation ≤ next.snapshot.generation := by
  cases move with
  | stay => exact Nat.le_refl _
  | beginActivate =>
    by_cases hengaged : stream.snapshot.status.isEngaged = true
    · simp [Stream.beginActivate, hengaged]
    · simp [Stream.beginActivate, hengaged]
  | settleActivate generation answer =>
    generalize hsettled : stream.settleActivate alive generation answer = settled
    obtain ⟨next, outcome⟩ := settled
    rcases settleActivate_cases hsettled with
      ⟨_, -, -, -, -, -, hshown, -⟩ | ⟨_, -, -, -, rfl⟩
        | ⟨_, -, -, -, hshown, -⟩ | ⟨_, -, -, -, rfl⟩
    · simp [hshown]
    · exact Nat.le_refl _
    · simp [hshown]
    · exact Nat.le_refl _
  | deactivate =>
    obtain ⟨hcleared, -, -⟩ := deactivate_eq (Prod.eta stream.deactivate).symm
    simp [hcleared]
  | receive generation record =>
    by_cases hcurrent : (alive && stream.shows generation) = true
    · simp [Stream.receive, hcurrent]
    · simp [Stream.receive, hcurrent]
  | feedEnded generation =>
    by_cases hcurrent : (alive && stream.shows generation) = true
    · simp [Stream.feedEnded, hcurrent]
    · simp [Stream.feedEnded, hcurrent]

end Stream
end VpnFleet
