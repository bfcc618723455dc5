import VpnFleet.Proofs.History
import VpnFleet.Proofs.Session.Operations
import VpnFleet.Proofs.Session.Run

/-!
# One opening at a time

A state is exclusive when at most one opening is under way, the mark names it,
every other opening is refused, and an answer never clears the mark of another
opening.

A closing clears the mark, whoever set it. One that settles while an opening is
under way therefore leaves that opening without its mark, and the next opening
is let in beside it. This is the only way to lose exclusion: the states up to
one are all exclusive exactly if no closing settled while an opening was under
way.

The invariant reads the targets under way and the mark as two lists of at most
one identifier and says that they are equal.
-/

namespace VpnFleet

namespace TrackerEvent

def opens : TrackerEvent → Bool
  | beginConnect _ => true
  | _ => false

def answers : TrackerEvent → Bool
  | settleConnect _ _ => true
  | _ => false

end TrackerEvent

namespace TrackerHistory

variable {past before : TrackerHistory} {event : TrackerEvent}

/-- Every opening that began was answered. -/
def AllAnswered (past : TrackerHistory) : Prop :=
  past.countP TrackerEvent.opens = past.countP TrackerEvent.answers

/-- Whenever a closing settled, no opening was under way. -/
def Undisturbed (past : TrackerHistory) : Prop :=
  ∀ (before : TrackerHistory) answer after,
    past = before ++ .settleDisconnect answer :: after → before.AllAnswered

theorem Undisturbed.of_start (h : past.Undisturbed) (hstart : before <+: past) :
    before.Undisturbed := by
  obtain ⟨rest, rfl⟩ := hstart
  intro earlier answer after hsplit
  refine h earlier answer (after ++ rest) ?_
  rw [hsplit, List.append_assoc, List.cons_append]

/-- A history stays undisturbed unless a closing settles while an opening is under way. -/
theorem Undisturbed.concat
    (h : past.Undisturbed)
    (hevent : ∀ answer, event = .settleDisconnect answer → past.AllAnswered) :
    Undisturbed (past ++ [event]) := by
  intro earlier answer after hsplit
  rcases History.split_concat hsplit with ⟨rfl, hlast, _⟩ | ⟨rest, hrest, _⟩
  · exact hevent answer hlast
  · exact h earlier answer rest hrest

end TrackerHistory

namespace TrackerRun

open TrackerHistory

variable {run next : TrackerRun}

/-- At most one opening is under way, and the mark is its own. -/
structure Exclusive (run : TrackerRun) : Prop where
  single : run.connects.length ≤ 1
  /-- The mark names the target of the opening under way. -/
  named : ∀ target ∈ run.connects, run.tracker.value.connecting = some target.id
  /-- There is no mark without an opening under way. -/
  idle : run.connects = [] → run.tracker.value.connecting = none
  /-- No opening begins while another one is under way. -/
  refused : ∀ outstanding ∈ run.connects, ∀ target : Instance,
    target.ensureConnectable = .ok () →
      run.tracker.beginConnect target
        = (run.tracker, .error (.connectInProgress outstanding.id))
  /-- The answer to one opening leaves the mark of another one. -/
  kept : ∀ (i : Nat) (target other : Instance) (answer : Except String Unit),
    run.connects[i]? = some target → other ∈ run.connects.eraseIdx i →
      (run.tracker.settleConnect run.alive target.id answer).1.value.connecting = some other.id

/-- The targets under way are those that the mark names. -/
def Marked (run : TrackerRun) : Prop :=
  run.connects.map Instance.id = run.tracker.value.connecting.toList

theorem Marked.exclusive (h : run.Marked) : run.Exclusive := by
  unfold Marked at h
  cases hmark : run.tracker.value.connecting with
  | none =>
    rw [hmark] at h
    have hnone : run.connects = [] := List.map_eq_nil_iff.1 h
    constructor
    · rw [hnone]
      exact Nat.zero_le 1
    · intro target htarget
      rw [hnone] at htarget
      cases htarget
    · intro _
      exact hmark
    · intro outstanding houtstanding
      rw [hnone] at houtstanding
      cases houtstanding
    · intro i target other answer hi
      rw [hnone] at hi
      cases hi
  | some id =>
    rw [hmark] at h
    obtain ⟨outstanding, hone, rfl⟩ := List.map_eq_singleton_iff.1 h
    have honly : ∀ target ∈ run.connects, target = outstanding := by
      intro target htarget
      rw [hone] at htarget
      exact List.mem_singleton.1 htarget
    constructor
    · rw [hone]
      exact Nat.le_refl 1
    · intro target htarget
      rw [honly target htarget]
      exact hmark
    · intro hempty
      rw [hone] at hempty
      cases hempty
    · intro target htarget other hready
      rw [honly target htarget]
      exact Tracker.beginConnect_of_marked hready hmark
    · intro i target other answer hi hother
      rw [hone] at hi hother
      cases i with
      | zero => cases hother
      | succ i => cases hi

/-- The openings under way are those that began and were not answered. -/
def Balanced (run : TrackerRun) : Prop :=
  run.connects.length + run.past.countP TrackerEvent.answers = run.past.countP TrackerEvent.opens

theorem Balanced.allAnswered_iff (h : run.Balanced) :
    run.past.AllAnswered ↔ run.connects = [] := by
  unfold Balanced at h
  unfold AllAnswered
  rw [← List.length_eq_zero_iff]
  omega

theorem Balanced.step (h : run.Balanced) (step : Step run next) : next.Balanced := by
  unfold Balanced at h ⊢
  cases step with
  | @beginConnect target tracker accepted =>
    show (run.connects ++ [target]).length + (run.past ++ [_]).countP _
      = (run.past ++ [_]).countP _
    rw [List.countP_append, List.countP_append, List.length_append, ← h]
    simp [TrackerEvent.opens, TrackerEvent.answers]
    omega
  | @settleConnect i target answer found =>
    obtain ⟨hi, _⟩ := List.getElem?_eq_some_iff.1 found
    show (run.connects.eraseIdx i).length + (run.past ++ [_]).countP _
      = (run.past ++ [_]).countP _
    rw [List.countP_append, List.countP_append, ← h, List.length_eraseIdx_of_lt hi]
    simp [TrackerEvent.opens, TrackerEvent.answers]
    omega
  | _ =>
    simpa [TrackerRun.note, List.countP_append, TrackerEvent.opens, TrackerEvent.answers] using h

theorem Reached.balanced (reached : Reached run) : run.Balanced := by
  induction reached with
  | refl => rfl
  | tail _ step ih => exact ih.step step

/-- A step keeps the mark on the opening under way if no closing settles beside one. -/
theorem Marked.step
    (h : run.Marked)
    (balanced : run.Balanced)
    (halive : next.alive = true)
    (undisturbed : next.past.Undisturbed)
    (step : Step run next) :
    next.Marked := by
  unfold Marked at h ⊢
  cases step with
  | beginQuery => exact h
  | settleQuery inventory answer found =>
    show run.connects.map Instance.id
      = (run.tracker.settleQuery _ _ _ _).1.value.connecting.toList
    rw [(Tracker.settleQuery_keeps _ _ _ _ _).1]
    exact h
  | reconcile inventory => exact h
  | @beginConnect target tracker accepted =>
    obtain ⟨hmark, hvalue⟩ := Tracker.beginConnect_eq_ok accepted
    rw [hmark] at h
    show (run.connects ++ [target]).map Instance.id = tracker.value.connecting.toList
    rw [hvalue, List.map_append, h]
    rfl
  | refuseConnect target refused =>
    obtain rfl := Tracker.beginConnect_eq_error refused
    exact h
  | @settleConnect i target answer found =>
    -- the opening that is answered is the only one, so none is left and the mark goes rightly
    have hshort : run.connects.length ≤ 1 := (Marked.exclusive h).single
    obtain ⟨hi, _⟩ := List.getElem?_eq_some_iff.1 found
    have hnone : run.connects.eraseIdx i = [] := by
      rw [← List.length_eq_zero_iff, List.length_eraseIdx_of_lt hi]
      omega
    show (run.connects.eraseIdx i).map Instance.id
      = (run.tracker.settleConnect run.alive target.id answer).1.value.connecting.toList
    have halive' : run.alive = true := halive
    rw [hnone, halive']
    cases answer with
    | ok reply =>
      show _ = (run.tracker.settleConnect true target.id (.ok ())).1.value.connecting.toList
      rw [Tracker.settleConnect_ok_value]
      rfl
    | error message =>
      rw [Tracker.settleConnect_error_value]
      rfl
  | beginDisconnect => exact h
  | settleDisconnect answer pending =>
    -- the mark goes with every closing, which is right only if there is no opening to name
    have hanswered : run.past.AllAnswered := undisturbed run.past answer [] rfl
    have hnone : run.connects = [] := balanced.allAnswered_iff.1 hanswered
    show run.connects.map Instance.id
      = (run.tracker.settleDisconnect run.alive answer).1.value.connecting.toList
    have halive' : run.alive = true := halive
    rw [hnone, halive', Tracker.settleDisconnect_value]
    rfl
  | retire => cases halive

/-- The mark stays on the opening under way in every run where no closing settles beside one. -/
theorem Reached.marked
    (reached : Reached run)
    (halive : run.alive = true)
    (undisturbed : run.past.Undisturbed) :
    run.Marked := by
  induction reached with
  | refl => rfl
  | tail reached step ih =>
    obtain ⟨event, hpast⟩ := step.exists_past_eq
    have hbefore := undisturbed.of_start ⟨[event], hpast.symm⟩
    exact (ih (step.alive halive) hbefore).step (Reached.balanced reached) halive undisturbed step

/-- What lies on the way to a state happened before it, and the client was alive. -/
theorem past_prefix_of_path
    (path : Relation.ReflTransGen Step run next) :
    run.past <+: next.past ∧ (next.alive = true → run.alive = true) := by
  induction path with
  | refl => exact ⟨List.prefix_rfl, id⟩
  | @tail mid last _ step ih =>
    obtain ⟨event, hpast⟩ := step.exists_past_eq
    constructor
    · rw [hpast]
      exact ih.1.trans (List.prefix_append _ _)
    · exact fun halive => ih.2 (step.alive halive)

/-- A closing that settles leaves the openings under way without a mark. -/
theorem Step.connecting_eq_none
    {answer : Except String Unit}
    (step : Step run next)
    (halive : run.alive = true)
    (hpast : next.past = run.past ++ [.settleDisconnect answer]) :
    next.connects = run.connects ∧ next.tracker.value.connecting = none := by
  cases step with
  | settleDisconnect other pending =>
    refine ⟨rfl, ?_⟩
    show (run.tracker.settleDisconnect run.alive other).1.value.connecting = none
    rw [halive, Tracker.settleDisconnect_value]
  | _ => simp [note] at hpast

/-- **Exclusion.** While the client is alive, every state on the way to this one was exclusive
exactly if no closing settled while an opening was under way. -/
theorem exclusive_iff_undisturbed
    (reached : Reached run)
    (halive : run.alive = true) :
    (∀ earlier, Reached earlier → Relation.ReflTransGen Step earlier run → earlier.Exclusive)
      ↔ run.past.Undisturbed := by
  constructor
  · -- induction on the run; the state after a closing names no target, so it has none
    intro hexclusive
    induction reached with
    | refl =>
      intro before answer after hsplit
      simp [new] at hsplit
    | @tail mid last reached step ih =>
      have hmid : mid.past.Undisturbed :=
        ih (step.alive halive) fun earlier hearlier path =>
          hexclusive earlier hearlier (path.tail step)
      have hlast : last.Exclusive := hexclusive last (reached.tail step) .refl
      obtain ⟨event, hpast⟩ := step.exists_past_eq
      rw [hpast]
      refine hmid.concat ?_
      rintro answer rfl
      obtain ⟨hconnects, hmark⟩ := step.connecting_eq_none (step.alive halive) hpast
      refine (Reached.balanced reached).allAnswered_iff.2 ?_
      rw [List.eq_nil_iff_forall_not_mem]
      intro target htarget
      rw [← hconnects] at htarget
      have hnamed := hlast.named target htarget
      rw [hmark] at hnamed
      cases hnamed
  · intro undisturbed earlier hearlier path
    obtain ⟨hstart, hbefore⟩ := past_prefix_of_path path
    exact (Reached.marked hearlier (hbefore halive) (undisturbed.of_start hstart)).exclusive

/-- A closing that settles while one opening is under way lets a second one begin beside it, and
the answer to the first then clears the mark of the second. -/
theorem closing_lets_second_opening_begin :
    ∃ run, Reached run ∧ run.alive = true
      ∧ run.connects.map Instance.id = ["i-1", "i-2"]
      ∧ run.tracker.value.connecting = some "i-2"
      ∧ (run.tracker.settleConnect run.alive "i-1" (.ok ())).1.value.connecting = none
      ∧ ¬ ∀ earlier, Reached earlier → Relation.ReflTransGen Step earlier run →
          earlier.Exclusive := by
  have opening : Reached _ :=
    Relation.ReflTransGen.refl.tail (Step.beginConnect _
      { id := "i-1", name := "vpn", lifecycle := .running, publicV4 := "198.51.100.1",
        publicV6 := none, region := "eu-1" } rfl)
  have closed := (opening.tail (Step.beginDisconnect _)).tail
    (Step.settleDisconnect _ (.ok ()) (by decide))
  have reached : Reached _ := closed.tail (Step.beginConnect _
    { id := "i-2", name := "vpn", lifecycle := .running, publicV4 := "198.51.100.2",
      publicV6 := none, region := "eu-1" } rfl)
  refine ⟨_, reached, rfl, rfl, rfl, rfl, ?_⟩
  intro hexclusive
  have undisturbed := (exclusive_iff_undisturbed reached rfl).1 hexclusive
  have hanswered := undisturbed [.beginConnect _, .beginDisconnect] (.ok ()) [.beginConnect _] rfl
  exact absurd hanswered (by unfold TrackerHistory.AllAnswered; decide)

end TrackerRun
end VpnFleet
