import Mathlib.Data.List.Induction
import VpnFleet.Notice
import VpnFleet.Proofs.History
import VpnFleet.Proofs.Keyed

/-!
# What stands on the notice board

Notices are posted, dismissed by their identifiers and cleared, in any order.
The history of a board holds what was done to it, with the answers.

* `NoticeHistory.standing` is read off the history alone: the posts that nothing
  took off the board since. `NoticeRun.Follows` says that the board holds just
  these, and that its counter is not behind any identifier given out.
* `NoticeBoard.Dismisses` says what a dismissal does to a board on which no two
  notices share an identifier: it concerns one notice, or nothing at all.
-/

namespace VpnFleet

/-- A notice before the board has given it an identifier. -/
structure Post where
  severity : Severity
  kind : NoticeKind
  message : String
deriving DecidableEq, Repr

def Notice.toPost (notice : Notice) : Post where
  severity := notice.severity
  kind := notice.kind
  message := notice.message

/-- What can be done to a board. -/
inductive NoticeAct where
  | post (post : Post)
  | dismiss (id : Nat)
  | clear
deriving DecidableEq, Repr

def NoticeAct.post? : NoticeAct → Option Post
  | .post made => some made
  | _ => none

/-- What was done to a board, with the answer. -/
inductive NoticeEvent where
  /-- A post, under the identifier that was returned. -/
  | posted (notice : Notice)
  | dismissed (id : Nat) (found : Bool)
  | cleared
deriving DecidableEq, Repr

namespace NoticeEvent

def posted? : NoticeEvent → Option Notice
  | posted notice => some notice
  | _ => none

/-- The event takes a notice off the board. -/
def removes (notice : Notice) : NoticeEvent → Bool
  | posted _ => false
  | dismissed id _ => notice.id = id
  | cleared => true

end NoticeEvent

/-- What was done to a board, the oldest first. -/
abbrev NoticeHistory := List NoticeEvent

namespace NoticeHistory

/-- The posts, under the identifiers that were returned. -/
def posted (past : NoticeHistory) : List Notice :=
  past.filterMap NoticeEvent.posted?

/-- The posts that were neither dismissed nor cleared since. -/
def standing (past : NoticeHistory) : List Notice :=
  History.lasting NoticeEvent.posted? NoticeEvent.removes past

variable (past : NoticeHistory) (event : NoticeEvent)

theorem posted_concat : posted (past ++ [event]) = past.posted ++ event.posted?.toList :=
  Keyed.filterMap_concat _ past event

theorem standing_concat :
    standing (past ++ [event])
      = (past.standing.filter fun notice => !event.removes notice) ++ event.posted?.toList :=
  History.lasting_concat _ _ past event

theorem standing_sublist : past.standing.Sublist past.posted :=
  History.lasting_sublist _ _ past

end NoticeHistory

namespace NoticeBoard

section Acts

variable (board : NoticeBoard)

theorem post_active (severity : Severity) (kind : NoticeKind) (message : String) :
    (board.post severity kind message).active
      = board.active ++ [{ id := board.lastId + 1, severity, kind, message }] := rfl

theorem dismiss_active (id : Nat) :
    (board.dismiss id).1.active = board.active.filter fun notice => notice.id ≠ id := rfl

theorem clear_active : board.clear.active = [] := rfl

/-- A dismissal finds what it takes away. -/
theorem dismiss_found_iff (id : Nat) :
    (board.dismiss id).2 = true ↔ ∃ notice ∈ board.active, notice.id = id := by
  have hfound : (board.dismiss id).2 = true
      ↔ (board.active.filter fun notice => notice.id ≠ id).length ≠ board.active.length :=
    decide_eq_true_iff
  rw [hfound, ne_eq, List.length_filter_eq_length_iff]
  simp

end Acts

/-- The notice with this identifier is taken off the board, if there is one. -/
structure Dismisses (board : NoticeBoard) (id : Nat) (next : NoticeBoard) (found : Bool) : Prop where
  found_iff : found = true ↔ ∃ notice ∈ board.active, notice.id = id
  removed : found = true → ∃ front notice back,
    board.active = front ++ notice :: back ∧ notice.id = id ∧ next.active = front ++ back
  untouched : found = false → next.active = board.active
  lastId : next.lastId = board.lastId

theorem dismiss_dismisses
    {board : NoticeBoard} (hids : (board.active.map Notice.id).Nodup) (id : Nat) :
    board.Dismisses id (board.dismiss id).1 (board.dismiss id).2 := by
  have herased : (board.dismiss id).1.active = board.active.eraseP fun notice => notice.id = id :=
    (Keyed.eraseP_eq_filter hids id).symm
  refine ⟨board.dismiss_found_iff id, ?_, ?_, rfl⟩
  · intro hfound
    obtain ⟨notice, hnotice, hid⟩ := (board.dismiss_found_iff id).1 hfound
    obtain ⟨first, front, back, -, hfirst, hsplit, hrest⟩ :=
      List.exists_of_eraseP (p := fun notice => decide (notice.id = id)) hnotice
        (decide_eq_true hid)
    exact ⟨front, first, back, hsplit, of_decide_eq_true hfirst, herased.trans hrest⟩
  · intro hmissing
    have hnone : ¬ ∃ notice ∈ board.active, notice.id = id := by
      rw [← board.dismiss_found_iff id, hmissing]
      exact Bool.false_ne_true
    rw [herased, List.eraseP_of_forall_not]
    intro notice hnotice hid
    exact hnone ⟨notice, hnotice, of_decide_eq_true hid⟩

end NoticeBoard

/-- A board with what was done to it. -/
structure NoticeRun where
  board : NoticeBoard
  past : NoticeHistory

namespace NoticeRun

/-- An empty board that nothing was done to. -/
def new : NoticeRun where
  board := .empty
  past := []

/-- One more act. A post returns the identifier that the board used last. -/
def act (run : NoticeRun) : NoticeAct → NoticeRun
  | .post { severity, kind, message } =>
    let board := run.board.post severity kind message
    { board, past := run.past ++ [.posted { id := board.lastId, severity, kind, message }] }
  | .dismiss id => {
      board := (run.board.dismiss id).1
      past := run.past ++ [.dismissed id (run.board.dismiss id).2] }
  | .clear => { board := run.board.clear, past := run.past ++ [.cleared] }

/-- The board after some acts. -/
def after (acts : List NoticeAct) : NoticeRun :=
  acts.foldl act new

theorem after_concat (acts : List NoticeAct) (last : NoticeAct) :
    after (acts ++ [last]) = (after acts).act last := by
  simp [after]

/-- The board holds what stands by its history, and its counter is not behind it. -/
structure Follows (run : NoticeRun) : Prop where
  active : run.board.active = run.past.standing
  growing : (run.past.posted.map Notice.id).Pairwise (· < ·)
  bounded : ∀ notice ∈ run.past.posted, notice.id ≤ run.board.lastId

variable {run : NoticeRun}

/-- An act that posts nothing changes what is active as its event changes what stands. -/
theorem Follows.keep
    (h : run.Follows) {board : NoticeBoard} {event : NoticeEvent}
    (hquiet : event.posted? = none) (hlast : board.lastId = run.board.lastId)
    (hactive : board.active = run.board.active.filter fun notice => !event.removes notice) :
    Follows { board, past := run.past ++ [event] } := by
  have hposted : NoticeHistory.posted (run.past ++ [event]) = run.past.posted := by
    rw [NoticeHistory.posted_concat, hquiet]
    exact List.append_nil _
  refine ⟨?_, ?_, ?_⟩
  · rw [NoticeHistory.standing_concat, hquiet, ← h.active]
    exact hactive.trans (List.append_nil _).symm
  · rw [hposted]
    exact h.growing
  · rw [hposted, hlast]
    exact h.bounded

theorem Follows.act (h : run.Follows) (next : NoticeAct) : (run.act next).Follows := by
  cases next with
  | post post =>
    let notice : Notice := {
      id := run.board.lastId + 1
      severity := post.severity
      kind := post.kind
      message := post.message }
    have hposted : NoticeHistory.posted (run.past ++ [.posted notice])
        = run.past.posted ++ [notice] := NoticeHistory.posted_concat _ _
    have hbelow : ∀ earlier ∈ run.past.posted, earlier.id < notice.id := fun earlier hearlier =>
      Nat.lt_succ_of_le (h.bounded earlier hearlier)
    have hstanding : NoticeHistory.standing (run.past ++ [.posted notice])
        = run.past.standing ++ [notice] := by
      rw [NoticeHistory.standing_concat]
      simp [NoticeEvent.removes, NoticeEvent.posted?]
    refine ⟨?_, ?_, ?_⟩
    · rw [NoticeRun.act, NoticeBoard.post_active, h.active]
      exact hstanding.symm
    · show ((NoticeHistory.posted (run.past ++ [.posted notice])).map Notice.id).Pairwise (· < ·)
      rw [hposted, List.map_append, List.pairwise_append]
      refine ⟨h.growing, List.pairwise_singleton _ _, ?_⟩
      simpa using hbelow
    · show ∀ earlier ∈ NoticeHistory.posted (run.past ++ [.posted notice]), earlier.id ≤ notice.id
      rw [hposted]
      intro earlier hearlier
      rcases List.mem_append.1 hearlier with hearlier | hearlier
      · exact Nat.le_of_lt (hbelow earlier hearlier)
      · have hlast : earlier = notice := List.mem_singleton.1 hearlier
        exact Nat.le_of_eq (congrArg Notice.id hlast)
  | dismiss id =>
    refine h.keep rfl rfl ?_
    rw [NoticeBoard.dismiss_active]
    simp [NoticeEvent.removes]
  | clear =>
    refine h.keep rfl rfl ?_
    rw [NoticeBoard.clear_active]
    simp [NoticeEvent.removes]

theorem after_follows (acts : List NoticeAct) : (after acts).Follows := by
  induction acts using List.reverseRecOn with
  | nil => exact ⟨rfl, List.Pairwise.nil, nofun⟩
  | append_singleton acts last ih =>
    rw [after_concat]
    exact ih.act last

/-- The history holds the posts as they were made. -/
theorem posts_after (acts : List NoticeAct) :
    (after acts).past.posted.map Notice.toPost = acts.filterMap NoticeAct.post? := by
  induction acts using List.reverseRecOn with
  | nil => rfl
  | append_singleton acts last ih =>
    rw [after_concat, Keyed.filterMap_concat, ← ih]
    cases last <;> simp [act, NoticeHistory.posted_concat, NoticeEvent.posted?, NoticeAct.post?,
      Notice.toPost]

/-- After any acts the board shows the notices that were posted and neither dismissed nor cleared
since, as they were posted and in this order. No identifier is given out twice, and a dismissal
takes the notice with its identifier away, if there is one, and nothing else. -/
theorem board_shows_what_stands (acts : List NoticeAct) :
    let run := after acts
    run.past.posted.map Notice.toPost = acts.filterMap NoticeAct.post?
      ∧ run.board.active = run.past.standing
      ∧ (run.board.active.map Notice.id).Pairwise (· < ·)
      ∧ (run.past.posted.map Notice.id).Pairwise (· < ·)
      ∧ ∀ id, run.board.Dismisses id (run.board.dismiss id).1 (run.board.dismiss id).2 := by
  intro run
  have h : run.Follows := after_follows acts
  have hactive : (run.board.active.map Notice.id).Pairwise (· < ·) := by
    rw [h.active]
    exact h.growing.sublist (run.past.standing_sublist.map Notice.id)
  have hids : (run.board.active.map Notice.id).Nodup := hactive.imp Nat.ne_of_lt
  exact ⟨posts_after acts, h.active, hactive, h.growing,
    fun id => NoticeBoard.dismiss_dismisses hids id⟩

end NoticeRun
end VpnFleet
