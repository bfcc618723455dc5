import VpnFleet.Traffic

/-!
# Operations and the traffic stream

What each operation of the stream makes of the snapshot and of the installed
feed. Later modules know the operations through these statements alone.

* An activation begins exactly if no subscription is there or on its way.
* The answer to a subscription counts for the activation that still waits for
  it; a feed that comes at any other time is late.
* A sample and the end of a feed count only for the generation that is shown.
* `Traffic.Shows` says what is shown of a sample: its counters, and its rates
  unless they are negative or not finite.
-/

namespace VpnFleet
namespace Traffic

open Float.Model

/-- What is shown for a rate. -/
structure ShowsRate (shown rate : Float) : Prop where
  isFinite : shown.isFinite = true
  nonneg : 0.0 ≤ shown
  kept : rate.isFinite = true → 0.0 < rate → shown = rate
  notPositive : ¬ 0.0 < rate → shown = 0.0
  negative : rate < 0.0 → shown = 0.0
  notFinite : rate.isFinite = false → shown = 0.0

/-- What is shown of a sample. -/
structure Shows (traffic : Traffic) (record : TrafficRecord) : Prop where
  bytesSent : traffic.bytesSent = record.bytesSent
  bytesReceived : traffic.bytesReceived = record.bytesReceived
  packetsSent : traffic.packetsSent = record.packetsSent
  packetsReceived : traffic.packetsReceived = record.packetsReceived
  uploadRate : ShowsRate traffic.uploadRate record.uploadRate
  downloadRate : ShowsRate traffic.downloadRate record.downloadRate

theorem lt_iff_unpack {a b : Float} :
    a < b ↔ a.toModel.unpack.lt b.toModel.unpack = true :=
  decide_eq_true_iff

theorem le_iff_unpack {a b : Float} :
    a ≤ b ↔ a.toModel.unpack.le b.toModel.unpack = true :=
  decide_eq_true_iff

theorem unpack_zero : (0.0 : Float).toModel.unpack = .zero .positive := rfl

theorem nonneg_of_pos {rate : Float} (h : 0.0 < rate) : 0.0 ≤ rate := by
  rw [lt_iff_unpack] at h
  rw [le_iff_unpack]
  unfold UnpackedFloat.lt at h
  unfold UnpackedFloat.le
  rw [beq_iff_eq] at h
  rw [h]
  rfl

theorem not_pos_of_neg {rate : Float} (h : rate < 0.0) : ¬ 0.0 < rate := by
  rw [lt_iff_unpack, unpack_zero] at h ⊢
  -- What is no number and what is zero is on neither side; for the rest the sign decides.
  cases hrate : rate.toModel.unpack with
  | notANumber => exact Bool.false_ne_true
  | zero sign => exact Bool.false_ne_true
  | infinity sign =>
    rw [hrate] at h
    cases sign with
    | positive => exact absurd h Bool.false_ne_true
    | negative => exact Bool.false_ne_true
  | finite sign mantissa exponent mantissa_pos =>
    rw [hrate] at h
    cases sign with
    | positive => exact absurd h Bool.false_ne_true
    | negative => exact Bool.false_ne_true

theorem showsRate_clampRate (rate : Float) : ShowsRate (clampRate rate) rate := by
  by_cases hkept : rate.isFinite = true ∧ 0.0 < rate
  · obtain ⟨hfinite, hpos⟩ := hkept
    have hshown : clampRate rate = rate := if_pos (by simp [hfinite, hpos])
    rw [hshown]
    exact {
      isFinite := hfinite
      nonneg := nonneg_of_pos hpos
      kept := fun _ _ => rfl
      notPositive := fun h => absurd hpos h
      negative := fun h => absurd hpos (not_pos_of_neg h)
      notFinite := fun h => absurd (hfinite.symm.trans h) nofun }
  · have hshown : clampRate rate = 0.0 := if_neg (by simpa using hkept)
    rw [hshown]
    exact {
      isFinite := rfl
      nonneg := by decide
      kept := fun hfinite hpos => absurd ⟨hfinite, hpos⟩ hkept
      notPositive := fun _ => rfl
      negative := fun _ => rfl
      notFinite := fun _ => rfl }

theorem shows_ofRecord (record : TrafficRecord) : (ofRecord record).Shows record where
  bytesSent := rfl
  bytesReceived := rfl
  packetsSent := rfl
  packetsReceived := rfl
  uploadRate := showsRate_clampRate _
  downloadRate := showsRate_clampRate _

end Traffic

namespace Stream

variable {stream next : Stream} {generation : Nat} {alive : Bool}

theorem awaits_iff :
    stream.awaits generation = true
      ↔ stream.snapshot.generation = generation ∧ stream.snapshot.status = .opening := by
  simp [awaits]

theorem shows_iff :
    stream.shows generation = true
      ↔ stream.snapshot.generation = generation ∧ stream.snapshot.status = .active := by
  simp [shows]

theorem beginActivate_eq_none
    (h : stream.beginActivate = (next, none)) :
    stream.snapshot.status.isEngaged = true ∧ next = stream := by
  unfold beginActivate at h
  split at h
  · next hengaged =>
      cases h
      exact ⟨hengaged, rfl⟩
  · cases h

/-- An activation that begins takes the next generation and leaves the installed feed. -/
theorem beginActivate_eq_some
    (h : stream.beginActivate = (next, some generation)) :
    stream.snapshot.status.isEngaged = false
      ∧ generation = stream.snapshot.generation + 1
      ∧ next.snapshot = { stream.snapshot with generation, status := .opening }
      ∧ next.active = stream.active := by
  unfold beginActivate at h
  split at h
  · cases h
  · next hidle =>
      cases h
      exact ⟨by simpa using hidle, rfl, rfl, rfl⟩

/-- The answer to a subscription is installed, comes late, ends the waiting of its activation, or
is the refusal of an activation that has passed. -/
theorem settleActivate_cases
    {answer : Except String String} {outcome : Subscribed}
    (h : stream.settleActivate alive generation answer = (next, outcome)) :
    (∃ feed,
        outcome = .installed { feed, generation }
          ∧ answer = .ok feed
          ∧ alive = true
          ∧ stream.snapshot.generation = generation
          ∧ stream.snapshot.status = .opening
          ∧ next.snapshot = { stream.snapshot with status := .active }
          ∧ next.active = some { feed, generation })
      ∨ (∃ feed,
        outcome = .late feed
          ∧ answer = .ok feed
          ∧ ¬ (alive = true
            ∧ stream.snapshot.generation = generation
            ∧ stream.snapshot.status = .opening)
          ∧ next = stream)
      ∨ (∃ message,
        outcome = .refused (.subscribe message)
          ∧ answer = .error message
          ∧ stream.snapshot.generation = generation
          ∧ next.snapshot
            = { stream.snapshot with status := .unavailable message, traffic := none }
          ∧ next.active = stream.active)
      ∨ ∃ message,
        outcome = .refused (.subscribe message)
          ∧ answer = .error message
          ∧ stream.snapshot.generation ≠ generation
          ∧ next = stream := by
  unfold settleActivate at h
  cases answer with
  | ok feed =>
    simp only at h
    split at h
    · next hcurrent =>
        cases h
        obtain ⟨halive, hawaits⟩ : alive = true ∧ stream.awaits generation = true := by
          simpa using hcurrent
        obtain ⟨hgeneration, hstatus⟩ := awaits_iff.1 hawaits
        exact Or.inl ⟨feed, rfl, rfl, halive, hgeneration, hstatus, rfl, rfl⟩
    · next hpassed =>
        cases h
        refine Or.inr (Or.inl ⟨feed, rfl, rfl, ?_, rfl⟩)
        rintro ⟨halive, hawaits⟩
        exact hpassed (by rw [halive, awaits_iff.2 hawaits, Bool.and_self])
  | error message =>
    simp only at h
    split at h
    · next hcurrent =>
        cases h
        exact Or.inr (Or.inr (Or.inl ⟨message, rfl, rfl, hcurrent, rfl, rfl⟩))
    · next hpassed =>
        cases h
        exact Or.inr (Or.inr (Or.inr ⟨message, rfl, rfl, hpassed, rfl⟩))

/-- A deactivation clears the counters, moves the generation on and hands the feed over. -/
theorem deactivate_eq
    {given : Option ActiveFeed}
    (h : stream.deactivate = (next, given)) :
    next.snapshot
        = { traffic := none
            status := .inactive
            generation := stream.snapshot.generation + 1 }
      ∧ next.active = none
      ∧ given = stream.active := by
  cases h
  exact ⟨rfl, rfl, rfl⟩

/-- A sample is shown and its forwarder goes on, or it changes nothing and its forwarder ends. -/
theorem receive_cases
    {record : TrafficRecord} {goesOn : Bool}
    (h : stream.receive alive generation record = (next, goesOn)) :
    (goesOn = true
        ∧ alive = true
        ∧ stream.snapshot.generation = generation
        ∧ stream.snapshot.status = .active
        ∧ next.snapshot = { stream.snapshot with traffic := some (Traffic.ofRecord record) }
        ∧ next.active = stream.active)
      ∨ (goesOn = false
        ∧ ¬ (alive = true
          ∧ stream.snapshot.generation = generation
          ∧ stream.snapshot.status = .active)
        ∧ next = stream) := by
  unfold receive at h
  split at h
  · next hcurrent =>
      cases h
      obtain ⟨halive, hshows⟩ : alive = true ∧ stream.shows generation = true := by
        simpa using hcurrent
      obtain ⟨hgeneration, hstatus⟩ := shows_iff.1 hshows
      exact Or.inl ⟨rfl, halive, hgeneration, hstatus, rfl, rfl⟩
  · next hstale =>
      cases h
      refine Or.inr ⟨rfl, ?_, rfl⟩
      rintro ⟨halive, hshows⟩
      exact hstale (by rw [halive, shows_iff.2 hshows, Bool.and_self])

theorem receive_of_stale
    (hstale : stream.snapshot.generation ≠ generation)
    (alive : Bool) (record : TrafficRecord) :
    stream.receive alive generation record = (stream, false) := by
  have hhidden : (alive && stream.shows generation) = false := by
    simp [shows, hstale]
  unfold receive
  rw [hhidden]
  rfl

/-- The end of the shown feed makes the stream unavailable; the feed stays installed. -/
theorem feedEnded_cases (stream : Stream) (alive : Bool) (generation : Nat) :
    (alive = true
        ∧ stream.snapshot.generation = generation
        ∧ stream.snapshot.status = .active
        ∧ (stream.feedEnded alive generation).snapshot
          = { stream.snapshot with traffic := none, status := .feedClosed }
        ∧ (stream.feedEnded alive generation).active = stream.active)
      ∨ (¬ (alive = true
          ∧ stream.snapshot.generation = generation
          ∧ stream.snapshot.status = .active)
        ∧ stream.feedEnded alive generation = stream) := by
  unfold feedEnded
  split
  · next hcurrent =>
      obtain ⟨halive, hshows⟩ : alive = true ∧ stream.shows generation = true := by
        simpa using hcurrent
      obtain ⟨hgeneration, hstatus⟩ := shows_iff.1 hshows
      exact Or.inl ⟨halive, hgeneration, hstatus, rfl, rfl⟩
  · next hstale =>
      refine Or.inr ⟨?_, rfl⟩
      rintro ⟨halive, hshows⟩
      exact hstale (by rw [halive, shows_iff.2 hshows, Bool.and_self])

end Stream
end VpnFleet
