import VpnFleet.Catalog
import VpnFleet.Notice
import VpnFleet.Proofs.Published

/-!
# Moves of the catalog and of the notice board

Both change only through their own operations, and a move publishes what it
changes. A dismissal publishes if it shortens the list, which it does exactly
if it changes it.
-/

namespace VpnFleet

namespace Catalog

/-- One step of a loading. -/
inductive Move (alive : Bool) (catalog : Catalog) : Catalog → Prop
  | stay : Move alive catalog catalog
  | beginLoad : Move alive catalog catalog.beginLoad
  | settleLoad (answer : Except String (List RegionRecord)) :
      Move alive catalog (catalog.settleLoad alive answer).1

variable {catalog next : Catalog} {alive : Bool}

theorem settleLoad_notifies
    (catalog : Catalog) (alive : Bool) (answer : Except String (List RegionRecord)) :
    catalog.Notifies id (catalog.settleLoad alive answer).1 := by
  cases answer <;> cases alive <;> simp [settleLoad, Published.Notifies]

theorem Move.notifies (move : Move alive catalog next) : catalog.Notifies id next := by
  cases move with
  | stay => exact Published.Notifies.refl id catalog
  | beginLoad => exact Published.modify_notifies id catalog _
  | settleLoad answer => exact settleLoad_notifies catalog alive answer

end Catalog

namespace NoticeBoard

/-- One operation on the board. -/
inductive Move (board : NoticeBoard) : NoticeBoard → Prop
  | stay : Move board board
  | post (severity : Severity) (kind : NoticeKind) (message : String) :
      Move board (board.post severity kind message)
  | dismiss (id : Nat) : Move board (board.dismiss id).1
  | clear : Move board board.clear

variable {board next : NoticeBoard}

theorem dismiss_notifies (board : NoticeBoard) (notice : Nat) :
    board.published.Notifies id (board.dismiss notice).1.published := by
  refine Published.update_notifies ?_
  intro hunpublished
  have hlength : (board.active.filter fun other => other.id ≠ notice).length
      = board.active.length := by
    simpa using hunpublished
  exact List.filter_sublist.eq_of_length hlength

theorem clear_notifies (board : NoticeBoard) :
    board.published.Notifies id board.clear.published := by
  refine Published.update_notifies ?_
  intro hunpublished
  have hempty : board.active = [] := by
    simpa using hunpublished
  exact hempty.symm

theorem Move.notifies (move : Move board next) :
    board.published.Notifies id next.published := by
  cases move with
  | stay => exact Published.Notifies.refl id board.published
  | post severity kind message => exact Published.modify_notifies id board.published _
  | dismiss notice => exact dismiss_notifies board notice
  | clear => exact clear_notifies board

end NoticeBoard
end VpnFleet
