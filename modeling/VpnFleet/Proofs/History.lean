import Mathlib.Data.List.Basic

/-!
# Histories

A run remembers what has happened as a list of events, the oldest first. A
statement about a moment of the past splits the list there.

Some events begin something and others end it. `lasting` is what was begun and
not ended since, read off the history alone; `lasting_concat` says how one more
event changes it.
-/

namespace VpnFleet
namespace History

variable {α : Type} {past before after : List α} {last event : α}

/-- An event of a longer history is the last one or was there before. -/
theorem split_concat
    (h : past ++ [last] = before ++ event :: after) :
    (past = before ∧ last = event ∧ after = [])
      ∨ ∃ rest, past = before ++ event :: rest ∧ after = rest ++ [last] := by
  rcases List.append_eq_append_iff.1 h with ⟨gap, hbefore, hlast⟩ | ⟨gap, hpast, hlast⟩
  · cases gap with
    | nil =>
      rw [List.nil_append, List.cons.injEq] at hlast
      exact Or.inl ⟨by simpa using hbefore.symm, hlast.1, hlast.2.symm⟩
    | cons other gap => simp at hlast
  · cases gap with
    | nil =>
      rw [List.nil_append, List.cons.injEq] at hlast
      exact Or.inl ⟨by simpa using hpast, hlast.1.symm, hlast.2⟩
    | cons other rest =>
      rw [List.cons_append, List.cons.injEq] at hlast
      obtain ⟨rfl, hafter⟩ := hlast
      exact Or.inr ⟨rest, hpast, hafter⟩

section Lasting

variable {β : Type} (begins? : α → Option β) (ends : β → α → Bool) (past : List α) (event : α)

/-- What was begun and not ended since, the oldest first. -/
def lasting : List α → List β
  | [] => []
  | first :: since =>
    match begins? first with
    | some begun => if since.any (ends begun) then lasting since else begun :: lasting since
    | none => lasting since

/-- An event takes out what it ends and puts at the end what it begins. -/
theorem lasting_concat :
    lasting begins? ends (past ++ [event])
      = ((lasting begins? ends past).filter fun begun => !ends begun event)
        ++ (begins? event).toList := by
  induction past with
  | nil =>
    rw [List.nil_append]
    unfold lasting
    cases begins? event <;> rfl
  | cons first since ih =>
    rw [List.cons_append]
    unfold lasting
    cases begins? first with
    | none => exact ih
    | some begun =>
      dsimp only
      rw [List.any_append, ih]
      cases hended : since.any (ends begun) with
      | true => rfl
      | false => cases hends : ends begun event <;> simp [hends]

theorem lasting_sublist : (lasting begins? ends past).Sublist (past.filterMap begins?) := by
  induction past with
  | nil => exact List.Sublist.refl []
  | cons first since ih =>
    unfold lasting
    cases hbegins : begins? first with
    | none =>
      rw [List.filterMap_cons_none hbegins]
      exact ih
    | some begun =>
      rw [List.filterMap_cons_some hbegins]
      dsimp only
      split
      · exact ih.cons begun
      · exact ih.cons_cons begun

end Lasting
end History
end VpnFleet
