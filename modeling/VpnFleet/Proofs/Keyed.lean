import Mathlib.Data.List.Nodup
import Mathlib.Data.List.Perm.Basic

/-!
# Lists told apart by a key

Entries, placeholders and tickets are told apart by an identifier. This module
holds what the later ones need about editing such lists at one place: an edit
that keeps a reading of the member keeps the reading of the list, and where no
key stands twice, erasing a member is the same as filtering its key out.
-/

namespace VpnFleet
namespace Keyed

variable {α β κ : Type}

/-- A member replaced by one that reads the same leaves the reading of the list. -/
theorem map_set_eq
    {f : α → β} {xs : List α} {i : Nat} {x y : α}
    (hi : xs[i]? = some x) (hf : f y = f x) :
    (xs.set i y).map f = xs.map f := by
  obtain ⟨hlt, rfl⟩ := List.getElem?_eq_some_iff.1 hi
  have hlt' : i < (xs.map f).length := by
    simpa using hlt
  have hread : f xs[i] = (xs.map f)[i] := by
    simp
  rw [List.map_set, hf, hread, List.set_getElem_self]

theorem map_modify_eq
    {f : α → β} {g : α → α}
    (hf : ∀ x, f (g x) = f x)
    (xs : List α) (i : Nat) :
    (xs.modify i g).map f = xs.map f := by
  apply List.ext_getElem?
  intro j
  rw [List.getElem?_map, List.getElem?_map, List.getElem?_modify]
  cases xs[j]? with
  | none => rfl
  | some x =>
    by_cases hij : i = j
    · simp [hij, hf]
    · simp [hij]

theorem mem_or_exists_of_mem_modify
    {g : α → α} {xs : List α} {i : Nat} {y : α}
    (hy : y ∈ xs.modify i g) :
    y ∈ xs ∨ ∃ x ∈ xs, y = g x := by
  obtain ⟨j, hj⟩ := List.mem_iff_getElem?.1 hy
  rw [List.getElem?_modify] at hj
  cases hx : xs[j]? with
  | none =>
    simp [hx] at hj
  | some x =>
    have hmem : x ∈ xs := List.mem_of_getElem? hx
    by_cases hij : i = j
    · right
      refine ⟨x, hmem, ?_⟩
      simpa [hx, hij] using hj.symm
    · left
      have hxy : x = y := by
        simpa [hx, hij] using hj
      exact hxy ▸ hmem

theorem modify_append_of_lt
    {g : α → α} {xs ys : List α} {i : Nat} (hi : i < xs.length) :
    (xs ++ ys).modify i g = xs.modify i g ++ ys := by
  apply List.ext_getElem?
  intro j
  rw [List.getElem?_modify, List.getElem?_append, List.getElem?_append, List.getElem?_modify,
    List.length_modify]
  by_cases hj : j < xs.length
  · rw [if_pos hj, if_pos hj]
  · have hij : i ≠ j := by omega
    simp [hj, hij]

/-- Between two parts of a list the member is changed alone. -/
theorem modify_append_cons (g : α → α) (xs : List α) (y : α) (ys : List α) :
    (xs ++ y :: ys).modify xs.length g = xs ++ g y :: ys := by
  induction xs with
  | nil => rfl
  | cons x xs ih => simp [ih]

/-- A member that comes to be counted is counted once more. -/
theorem perm_filter_map_modify
    {f : α → β} {g : α → α} {p : α → Bool} {xs : List α} {i : Nat} {x : α}
    (hi : xs[i]? = some x) (hx : p x = false) (hg : p (g x) = true) (hf : f (g x) = f x) :
    (((xs.modify i g).filter p).map f).Perm ((xs.filter p).map f ++ [f x]) := by
  induction xs generalizing i with
  | nil => simp at hi
  | cons y xs ih =>
    cases i with
    | zero =>
      obtain rfl : y = x := by
        simpa using hi
      rw [List.modify_zero_cons, List.filter_cons_of_pos hg, List.map_cons, hf,
        List.filter_cons_of_neg (by simp [hx])]
      exact (List.perm_append_singleton _ _).symm
    | succ i =>
      have hrest := ih (i := i) (by simpa using hi)
      rw [List.modify_succ_cons]
      by_cases hy : p y = true
      · rw [List.filter_cons_of_pos hy, List.filter_cons_of_pos hy]
        exact hrest.cons _
      · rw [List.filter_cons_of_neg hy, List.filter_cons_of_neg hy]
        exact hrest

theorem exists_getElem?_of_findIdx?
    {p : α → Bool} {xs : List α} {i : Nat}
    (hi : xs.findIdx? p = some i) :
    ∃ x, xs[i]? = some x ∧ p x = true := by
  obtain ⟨hlt, hp, _⟩ := List.findIdx?_eq_some_iff_getElem.1 hi
  exact ⟨xs[i], List.getElem?_eq_getElem hlt, hp⟩

/-- The first member that satisfies a predicate parts the list. -/
theorem exists_split_of_findIdx?
    {p : α → Bool} {xs : List α} {i : Nat}
    (hi : xs.findIdx? p = some i) :
    ∃ front x back,
      xs = front ++ x :: back ∧ front.length = i ∧ p x = true ∧ ∀ y ∈ front, p y = false := by
  obtain ⟨hlt, hp, hbefore⟩ := List.findIdx?_eq_some_iff_getElem.1 hi
  refine ⟨xs.take i, xs[i], xs.drop (i + 1), ?_, ?_, hp, ?_⟩
  · rw [List.getElem_cons_drop, List.take_append_drop]
  · rw [List.length_take_of_le (Nat.le_of_lt hlt)]
  · intro y hy
    obtain ⟨j, hj, rfl⟩ := List.mem_take_iff_getElem.1 hy
    have hji : j < i := by omega
    simpa using hbefore j hji

theorem findIdx?_append_cons
    {p : α → Bool} {front back : List α} {x : α}
    (hfront : ∀ y ∈ front, p y = false) (hx : p x = true) :
    (front ++ x :: back).findIdx? p = some front.length := by
  have hnone : front.findIdx? p = none := List.findIdx?_eq_none_iff.2 hfront
  rw [List.findIdx?_append, hnone, List.findIdx?_cons, if_pos hx]
  simp

/-- The first member that satisfies a predicate stands at the first such place. -/
theorem find?_eq_getElem?_of_findIdx?
    {p : α → Bool} {xs : List α} {i : Nat}
    (hi : xs.findIdx? p = some i) :
    xs.find? p = xs[i]? := by
  obtain ⟨hlt, hp, hbefore⟩ := List.findIdx?_eq_some_iff_getElem.1 hi
  rw [List.getElem?_eq_getElem hlt, List.find?_eq_some_iff_getElem]
  exact ⟨hp, i, hlt, rfl, fun j hj => by simpa using hbefore j hj⟩

theorem findIdx?_congr
    {p : α → Bool} {xs ys : List α}
    (h : xs.map p = ys.map p) :
    xs.findIdx? p = ys.findIdx? p := by
  have hread (zs : List α) : zs.findIdx? p = (zs.map p).findIdx? id := by
    rw [List.findIdx?_map]
    rfl
  rw [hread, hread, h]

/-- Replacing a member by one that is not read is the same as erasing it. -/
theorem filterMap_set_eq_eraseIdx
    {f : α → Option β} {y : α}
    (hf : f y = none)
    (xs : List α) (i : Nat) :
    (xs.set i y).filterMap f = (xs.eraseIdx i).filterMap f := by
  induction xs generalizing i with
  | nil => rfl
  | cons x xs ih =>
    cases i with
    | zero => simp [hf]
    | succ i => simp [List.filterMap_cons, ih]

/-- A member that is not read may be erased. -/
theorem filterMap_eraseIdx_of_none
    {f : α → Option β} {xs : List α} {i : Nat} {x : α}
    (hi : xs[i]? = some x) (hx : f x = none) :
    (xs.eraseIdx i).filterMap f = xs.filterMap f := by
  obtain ⟨hlt, rfl⟩ := List.getElem?_eq_some_iff.1 hi
  rw [← filterMap_set_eq_eraseIdx hx, List.set_getElem_self]

theorem filterMap_concat (f : α → Option β) (xs : List α) (x : α) :
    (xs ++ [x]).filterMap f = xs.filterMap f ++ (f x).toList := by
  rw [List.filterMap_append]
  cases h : f x <;> simp [h]

/-- What is read of a list is what is read of a member and of the rest. -/
theorem perm_filterMap_eraseIdx
    {f : α → Option β} {xs : List α} {i : Nat} {x : α}
    (hi : xs[i]? = some x) :
    ((f x).toList ++ (xs.eraseIdx i).filterMap f).Perm (xs.filterMap f) := by
  obtain ⟨hlt, rfl⟩ := List.getElem?_eq_some_iff.1 hi
  have hread : (xs[i] :: xs.eraseIdx i).filterMap f
      = (f xs[i]).toList ++ (xs.eraseIdx i).filterMap f := by
    cases h : f xs[i] <;> simp [h]
  rw [← hread]
  exact (List.getElem_cons_eraseIdx_perm hlt).filterMap f

/-- A member with another key stays when one is replaced. -/
theorem mem_set_of_key_ne
    {key : α → κ} {xs : List α} {i : Nat} {x y z : α}
    (hi : xs[i]? = some x) (hz : z ∈ xs) (hne : key z ≠ key x) :
    z ∈ xs.set i y := by
  obtain ⟨j, hj⟩ := List.mem_iff_getElem?.1 hz
  have hij : i ≠ j := by
    rintro rfl
    obtain rfl : x = z := by
      simpa [hi] using hj
    exact hne rfl
  refine List.mem_of_getElem? (i := j) ?_
  rw [List.getElem?_set_ne hij]
  exact hj

/-- Where no key stands twice, a replaced member is the only one with its key. -/
theorem eq_of_mem_set
    {key : α → κ} {xs : List α} {i : Nat} {x y z : α}
    (hkeys : (xs.map key).Nodup)
    (hi : xs[i]? = some x) (hy : key y = key x)
    (hz : z ∈ xs.set i y) (hk : key z = key x) :
    z = y := by
  have hnodup : ((xs.set i y).map key).Nodup := by
    rw [map_set_eq hi hy]
    exact hkeys
  obtain ⟨hlt, _⟩ := List.getElem?_eq_some_iff.1 hi
  have hmem : y ∈ xs.set i y := List.mem_set hlt y
  exact List.inj_on_of_nodup_map hnodup hz hmem (hk.trans hy.symm)

section Distinct

variable [DecidableEq κ] {key : α → κ} {xs : List α}

/-- Where no key stands twice, erasing the first member with a key takes the key away. -/
theorem eraseP_eq_filter
    (hkeys : (xs.map key).Nodup) (k : κ) :
    xs.eraseP (fun x => key x = k) = xs.filter fun x => key x ≠ k := by
  induction xs with
  | nil => rfl
  | cons x xs ih =>
    rw [List.map_cons, List.nodup_cons] at hkeys
    by_cases hx : key x = k
    · -- the key is gone from the rest, so the filter keeps all of it
      have hrest : ∀ y ∈ xs, key y ≠ k := by
        intro y hy hk
        exact hkeys.1 (List.mem_map.2 ⟨y, hy, hk.trans hx.symm⟩)
      have hkeep : xs.filter (fun y => key y ≠ k) = xs := by
        simpa using hrest
      rw [List.eraseP_cons_of_pos (by simpa using hx)]
      rw [List.filter_cons_of_neg (by simpa using hx), hkeep]
    · rw [List.eraseP_cons_of_neg (by simpa using hx)]
      rw [List.filter_cons_of_pos (by simpa using hx), ih hkeys.2]

/-- Where no key stands twice, erasing a member takes its key away. -/
theorem eraseIdx_eq_filter
    (hkeys : (xs.map key).Nodup)
    {i : Nat} {x : α} (hi : xs[i]? = some x) :
    xs.eraseIdx i = xs.filter fun y => key y ≠ key x := by
  induction xs generalizing i with
  | nil => simp at hi
  | cons z xs ih =>
    rw [List.map_cons, List.nodup_cons] at hkeys
    cases i with
    | zero =>
      obtain rfl : z = x := by
        simpa using hi
      have hrest : ∀ y ∈ xs, key y ≠ key z := by
        intro y hy hk
        exact hkeys.1 (List.mem_map.2 ⟨y, hy, hk⟩)
      have hkeep : xs.filter (fun y => key y ≠ key z) = xs := by
        simpa using hrest
      rw [List.filter_cons_of_neg (by simp), hkeep]
      rfl
    | succ i =>
      have hx : xs[i]? = some x := by
        simpa using hi
      have hne : key z ≠ key x := by
        intro hk
        exact hkeys.1 (List.mem_map.2 ⟨x, List.mem_of_getElem? hx, hk.symm⟩)
      rw [List.filter_cons_of_pos (by simpa using hne), ← ih hkeys.2 hx]
      rfl

/-- Where the key tells the members apart, a member is what is found under its key. -/
theorem find?_eq_some_iff_of_injOn
    (hkeys : ∀ x ∈ xs, ∀ y ∈ xs, key x = key y → x = y) (k : κ) (x : α) :
    xs.find? (fun y => key y = k) = some x ↔ x ∈ xs ∧ key x = k := by
  constructor
  · intro hfound
    exact ⟨List.mem_of_find?_eq_some hfound, by simpa using List.find?_some hfound⟩
  · rintro ⟨hx, hk⟩
    cases hfound : xs.find? (fun y => key y = k) with
    | none =>
      have hnone := List.find?_eq_none.1 hfound x hx
      simp [hk] at hnone
    | some y =>
      have hy : y ∈ xs := List.mem_of_find?_eq_some hfound
      have hyk : key y = k := by
        simpa using List.find?_some hfound
      rw [hkeys y hy x hx (hyk.trans hk.symm)]

end Distinct
end Keyed
end VpnFleet
