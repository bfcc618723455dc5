/-!
# Bounded channels

A first-in first-out queue between one sender and one receiver. It holds a
bounded number of items; items that wait when the sender is gone can still be
received, and nothing can be sent once the receiver is gone.
-/

namespace VpnFleet

/-- A channel with its two ends. -/
structure Channel (α : Type) where
  capacity : Nat
  queue : List α
  /-- The sender is there. -/
  sending : Bool
  /-- The receiver is there. -/
  receiving : Bool
deriving Repr

/-- What a receiver finds. -/
inductive Received (α : Type) where
  | item (value : α)
  /-- Nothing yet. -/
  | empty
  /-- Nothing any more. -/
  | closed
deriving Repr

namespace Channel

variable {α : Type}

/-- An empty channel with both ends. -/
def new (capacity : Nat) : Channel α where
  capacity := capacity
  queue := []
  sending := true
  receiving := true

/-- There is room for one more item. -/
def hasRoom (channel : Channel α) : Bool :=
  channel.queue.length < channel.capacity

/-- An item would be taken. -/
def accepts (channel : Channel α) : Bool :=
  channel.receiving && channel.hasRoom

/-- Puts an item at the end. -/
def push (channel : Channel α) (value : α) : Channel α :=
  { channel with queue := channel.queue ++ [value] }

/-- Sends an item if it is taken. -/
def offer (channel : Channel α) (value : α) : Channel α × Bool :=
  if channel.accepts then (channel.push value, true) else (channel, false)

/-- Receives the oldest item. -/
def receive (channel : Channel α) : Channel α × Received α :=
  match channel.queue with
  | value :: rest => ({ channel with queue := rest }, .item value)
  | [] => (channel, if channel.sending then .empty else .closed)

/-- A receiver would find an item or the end. -/
def isReadable (channel : Channel α) : Bool :=
  !channel.queue.isEmpty || !channel.sending

/-- The sender goes. -/
def finish (channel : Channel α) : Channel α :=
  { channel with sending := false }

/-- The receiver goes, and the items that waited with it. -/
def hangUp (channel : Channel α) : Channel α :=
  { channel with receiving := false, queue := [] }

theorem offer_cases
    {channel next : Channel α} {value : α} {taken : Bool}
    (h : channel.offer value = (next, taken)) :
    (taken = true ∧ channel.receiving = true ∧ next = channel.push value)
      ∨ (taken = false ∧ next = channel) := by
  unfold offer at h
  split at h
  · next htaken =>
      cases h
      have hboth : channel.receiving = true ∧ channel.hasRoom = true := by
        simpa [accepts] using htaken
      exact Or.inl ⟨rfl, hboth.1, rfl⟩
  · cases h
    exact Or.inr ⟨rfl, rfl⟩

theorem receive_eq_item
    {channel next : Channel α} {value : α}
    (h : channel.receive = (next, .item value)) :
    channel.queue = value :: next.queue
      ∧ next.sending = channel.sending
      ∧ next.receiving = channel.receiving := by
  unfold receive at h
  split at h
  · next hqueue =>
      cases h
      exact ⟨hqueue, rfl, rfl⟩
  · split at h <;> cases h

theorem receive_eq_closed
    {channel next : Channel α}
    (h : channel.receive = (next, .closed)) :
    channel.queue = [] ∧ channel.sending = false := by
  unfold receive at h
  split at h
  · cases h
  · next hqueue =>
      split at h
      · cases h
      · next hgone => exact ⟨hqueue, by simpa using hgone⟩

end Channel
end VpnFleet
