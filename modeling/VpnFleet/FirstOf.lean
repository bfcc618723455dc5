/-!
# First occurrences

A list in which every key stands once, at the place of its first occurrence.
Regions are told apart by code and instances by identifier in this way.
-/

namespace VpnFleet

variable {α κ : Type} [DecidableEq κ]

/-- The list without the members whose key stood before. -/
def firstOf (key : α → κ) : List α → List α
  | [] => []
  | a :: rest => a :: (firstOf key rest).filter fun b => key b ≠ key a

@[simp]
theorem firstOf_nil (key : α → κ) : firstOf key [] = [] := rfl

theorem firstOf_cons (key : α → κ) (a : α) (rest : List α) :
    firstOf key (a :: rest) = a :: (firstOf key rest).filter fun b => key b ≠ key a := rfl

/-- Nothing is added. -/
theorem mem_of_mem_firstOf (key : α → κ) {a : α} {xs : List α}
    (h : a ∈ firstOf key xs) : a ∈ xs := by
  induction xs with
  | nil => simp at h
  | cons x xs ih =>
    rw [firstOf_cons] at h
    rcases List.mem_cons.1 h with rfl | h
    · exact List.mem_cons_self
    · exact List.mem_cons_of_mem _ (ih ((List.mem_filter.1 h).1))

/-- No key stands twice. -/
theorem nodup_map_firstOf (key : α → κ) (xs : List α) :
    ((firstOf key xs).map key).Nodup := by
  induction xs with
  | nil => simp
  | cons x xs ih =>
    rw [firstOf_cons, List.map_cons, List.nodup_cons]
    constructor
    · simp [List.mem_map]
    · exact ih.sublist (List.Sublist.map key List.filter_sublist)

/-- Every key is kept. -/
theorem mem_map_firstOf_iff (key : α → κ) (k : κ) (xs : List α) :
    k ∈ (firstOf key xs).map key ↔ k ∈ xs.map key := by
  induction xs with
  | nil => simp
  | cons x xs ih =>
    rw [firstOf_cons]
    by_cases hk : k = key x
    · simp [hk]
    · simp only [List.map_cons, List.mem_cons, hk, false_or, List.mem_map] at ih ⊢
      rw [← ih]
      constructor
      · rintro ⟨a, ha, rfl⟩
        exact ⟨a, (List.mem_filter.1 ha).1, rfl⟩
      · rintro ⟨a, ha, rfl⟩
        exact ⟨a, List.mem_filter.2 ⟨ha, by simpa using hk⟩, rfl⟩

/-- The keys that are left are the first occurrences among the keys. -/
theorem map_key_firstOf (key : α → κ) (xs : List α) :
    (firstOf key xs).map key = firstOf id (xs.map key) := by
  induction xs with
  | nil => rfl
  | cons x xs ih =>
    rw [List.map_cons, firstOf_cons, firstOf_cons, List.map_cons, ← ih, List.filter_map]
    rfl

/-- What is found by its key is the first occurrence. -/
theorem find?_firstOf (key : α → κ) (k : κ) (xs : List α) :
    (firstOf key xs).find? (fun a => key a = k) = xs.find? fun a => key a = k := by
  induction xs with
  | nil => rfl
  | cons x xs ih =>
    rw [firstOf_cons]
    by_cases hx : key x = k
    · rw [List.find?_cons_of_pos (by simpa using hx), List.find?_cons_of_pos (by simpa using hx)]
    · rw [List.find?_cons_of_neg (by simpa using hx), List.find?_cons_of_neg (by simpa using hx),
        List.find?_filter, ← ih]
      congr 1
      funext a
      by_cases ha : key a = k
      · have hax : k ≠ key x := fun h => hx h.symm
        simp [ha, hax]
      · simp [ha]

end VpnFleet
