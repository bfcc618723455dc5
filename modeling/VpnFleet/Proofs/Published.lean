import VpnFleet.Published

/-!
# Changes are published

A watcher of a published value reads some view of it and waits for the next
publication. A step that changes the view without a publication would leave the
watcher with what it read before.

`Notifies view` says that a step does not do so. Steps compose, and what holds
of a view holds of all that can be read off it.
-/

namespace VpnFleet
namespace Published

variable {α β γ : Type} {p mid next : Published α} {view : α → β}

/-- The view stays with its publication, or something is published. -/
def Notifies (view : α → β) (p next : Published α) : Prop :=
  (next.version = p.version ∧ view next.value = view p.value) ∨ p.version < next.version

theorem Notifies.refl (view : α → β) (p : Published α) : p.Notifies view p :=
  Or.inl ⟨rfl, rfl⟩

theorem Notifies.version_le (h : p.Notifies view next) : p.version ≤ next.version := by
  rcases h with ⟨hversion, -⟩ | hgrown
  · omega
  · omega

theorem Notifies.version_lt
    (h : p.Notifies view next) (hchanged : view next.value ≠ view p.value) :
    p.version < next.version := by
  rcases h with ⟨-, hsame⟩ | hgrown
  · exact absurd hsame hchanged
  · exact hgrown

theorem Notifies.trans (h₁ : p.Notifies view mid) (h₂ : mid.Notifies view next) :
    p.Notifies view next := by
  rcases h₁ with ⟨hversion, hsame⟩ | hgrown
  · rcases h₂ with ⟨hlater, hkept⟩ | hgrown
    · exact Or.inl ⟨hlater.trans hversion, hkept.trans hsame⟩
    · exact Or.inr (by omega)
  · have hle := h₂.version_le
    exact Or.inr (by omega)

theorem Notifies.comp (h : p.Notifies view next) (f : β → γ) : p.Notifies (f ∘ view) next := by
  rcases h with ⟨hversion, hsame⟩ | hgrown
  · exact Or.inl ⟨hversion, congrArg f hsame⟩
  · exact Or.inr hgrown

theorem modify_notifies (view : α → β) (p : Published α) (f : α → α) :
    p.Notifies view (p.modify f) :=
  Or.inr (Nat.lt_succ_self _)

theorem replace_notifies (view : α → β) (p : Published α) (value : α) :
    p.Notifies view (p.replace value) :=
  Or.inr (Nat.lt_succ_self _)

/-- An update has to be published if it changes the view. -/
theorem update_notifies {value : α} {publish : Bool}
    (h : publish = false → view value = view p.value) :
    p.Notifies view (p.update value publish) := by
  cases publish with
  | false => exact Or.inl ⟨rfl, h rfl⟩
  | true => exact Or.inr (Nat.lt_succ_self _)

end Published
end VpnFleet
