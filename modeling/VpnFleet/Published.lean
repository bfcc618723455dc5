/-!
# Published values

A value that others watch. Each publication raises the version by one, and a
watcher that remembers the version it saw last knows whether it missed one.
A publication need not change the value, and an update may change the value
without publishing it.
-/

namespace VpnFleet

/-- A value with the number of its publications. -/
structure Published (α : Type) where
  value : α
  version : Nat
deriving Repr

namespace Published

variable {α : Type}

/-- A value that was never published. -/
def new (value : α) : Published α :=
  { value, version := 0 }

/-- Changes the value and publishes it. -/
def modify (p : Published α) (f : α → α) : Published α :=
  { value := f p.value, version := p.version + 1 }

/-- Replaces the value and publishes it. -/
def replace (p : Published α) (value : α) : Published α :=
  { value, version := p.version + 1 }

/-- Changes the value, and publishes it if the flag is set. -/
def update (p : Published α) (value : α) (publish : Bool) : Published α :=
  { value, version := if publish then p.version + 1 else p.version }

@[simp]
theorem modify_value (p : Published α) (f : α → α) :
    (p.modify f).value = f p.value := rfl

@[simp]
theorem modify_version (p : Published α) (f : α → α) :
    (p.modify f).version = p.version + 1 := rfl

@[simp]
theorem replace_value (p : Published α) (value : α) :
    (p.replace value).value = value := rfl

@[simp]
theorem replace_version (p : Published α) (value : α) :
    (p.replace value).version = p.version + 1 := rfl

@[simp]
theorem update_value (p : Published α) (value : α) (publish : Bool) :
    (p.update value publish).value = value := rfl

theorem version_le_update (p : Published α) (value : α) (publish : Bool) :
    p.version ≤ (p.update value publish).version := by
  unfold update
  split <;> simp

end Published
end VpnFleet
