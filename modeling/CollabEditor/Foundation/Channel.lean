import Mathlib.Data.List.Basic

/-! # Channels

A bounded buffer that can be closed once. An operation waits, goes through, or panics; a
`select` chooses among the operations that do not wait.
-/

namespace Foundation

/-- What an operation does in a state. -/
inductive Outcome (Result : Type*)
  | blocked
  | panics
  | done (result : Result)

structure Channel (Item : Type*) where
  capacity : Nat
  buffer : List Item
  closed : Bool

namespace Channel

variable {Item : Type*} (channel : Channel Item)

/-- `make(chan Item, capacity)`. -/
def make (capacity : Nat) : Channel Item where
  capacity := capacity
  buffer := []
  closed := false

/-- A send to a closed channel panics, even if its buffer is full. -/
def send (item : Item) : Outcome (Channel Item) :=
  if channel.closed then .panics
  else if channel.buffer.length < channel.capacity then
    .done { channel with buffer := channel.buffer ++ [item] }
  else .blocked

/-- The items of a closed channel are received before its end, which has no item. -/
def receive : Outcome (Option Item × Channel Item) :=
  match channel.buffer with
  | item :: rest => .done (some item, { channel with buffer := rest })
  | [] => if channel.closed then .done (none, channel) else .blocked

def close : Outcome (Channel Item) :=
  if channel.closed then .panics else .done { channel with closed := true }

variable {channel} {after : Channel Item}

theorem send_done {item : Item} (hsend : channel.send item = .done after) :
    channel.closed = false ∧ after = { channel with buffer := channel.buffer ++ [item] } := by
  unfold send at hsend
  split at hsend
  next => cases hsend
  next hopen =>
    split at hsend
    next =>
      cases hsend
      exact ⟨Bool.eq_false_iff.mpr hopen, rfl⟩
    next => cases hsend

theorem send_panics {item : Item} (hsend : channel.send item = .panics) :
    channel.closed = true := by
  unfold send at hsend
  split at hsend
  next hclosed => exact hclosed
  next => split at hsend <;> cases hsend

theorem receive_item {item : Item} (hreceive : channel.receive = .done (some item, after)) :
    channel.buffer = item :: after.buffer ∧ after.closed = channel.closed := by
  unfold receive at hreceive
  split at hreceive
  next rest hbuffer =>
    cases hreceive
    exact ⟨hbuffer, rfl⟩
  next => split at hreceive <;> cases hreceive

theorem close_done (hclose : channel.close = .done after) :
    channel.closed = false ∧ after = { channel with closed := true } := by
  unfold close at hclose
  split at hclose
  next => cases hclose
  next hopen =>
    cases hclose
    exact ⟨Bool.eq_false_iff.mpr hopen, rfl⟩

theorem close_panics (hclose : channel.close = .panics) : channel.closed = true := by
  unfold close at hclose
  split at hclose
  next hclosed => exact hclosed
  next => cases hclose

end Channel

end Foundation
