import Mathlib.Data.List.Basic

/-!
# Buffered channels

A channel of a given capacity, with a record of what was received from it. What was sent is then
what was received and what is still buffered, in this order, so **a channel neither loses nor
repeats nor reorders anything**. A send to a full channel and a receive from an empty one have to
wait; what becomes of a send to a closed channel is up to the program.
-/

/-- A channel with a buffer. -/
structure Chan (α : Type) where
  cap : Nat
  /-- What is buffered, oldest first. -/
  buf : List α
  closed : Bool
  /-- What was received, oldest first. -/
  received : List α
  bounded : buf.length ≤ cap
deriving DecidableEq

namespace Chan

variable {α : Type} {c c' : Chan α} {a : α}

/-- `make(chan α, cap)`. -/
def make (α : Type) (cap : Nat) : Chan α := ⟨cap, [], false, [], Nat.zero_le _⟩

/-- What was sent, oldest first. -/
def sent (c : Chan α) : List α := c.received ++ c.buf

/-- Puts an element into the buffer, if there is room. -/
def send (c : Chan α) (a : α) : Option (Chan α) :=
  if h : c.buf.length < c.cap then
    some { c with buf := c.buf ++ [a], bounded := by rw [List.length_append]; exact h }
  else none

/-- Takes the oldest element from the buffer. -/
def recv (c : Chan α) : Option (α × Chan α) :=
  match h : c.buf with
  | [] => none
  | a :: rest => some (a, { c with
      buf := rest
      received := c.received ++ [a]
      bounded := by
        have hb := c.bounded
        rw [h] at hb
        exact Nat.le_of_succ_le hb })

def close (c : Chan α) : Chan α := { c with closed := true }

theorem received_prefix (c : Chan α) : c.received <+: c.sent := List.prefix_append _ _

theorem sent_of_buf_nil (h : c.buf = []) : c.sent = c.received := by
  rw [sent, h, List.append_nil]

theorem send_some (h : c.send a = some c') : c'.sent = c.sent ++ [a] ∧ c'.received = c.received
    ∧ c'.buf = c.buf ++ [a] ∧ c'.closed = c.closed ∧ c'.cap = c.cap := by
  unfold send at h
  split at h
  · cases h
    exact ⟨(List.append_assoc _ _ _).symm, rfl, rfl, rfl, rfl⟩
  · cases h

theorem recv_some (h : c.recv = some (a, c')) : c'.sent = c.sent ∧ c'.received = c.received ++ [a]
    ∧ c.buf = a :: c'.buf ∧ c'.closed = c.closed ∧ c'.cap = c.cap := by
  unfold recv at h
  split at h
  · cases h
  · rename_i b rest hb
    cases h
    refine ⟨?_, rfl, hb, rfl, rfl⟩
    change c.received ++ [a] ++ rest = c.received ++ c.buf
    rw [hb, List.append_assoc]
    rfl

theorem buf_of_recv_none (h : c.recv = none) : c.buf = [] := by
  unfold recv at h
  split at h
  · assumption
  · cases h

theorem recv_of_buf_nil (h : c.buf = []) : c.recv = none := by
  unfold recv
  split
  · rfl
  · rename_i hb
    rw [h] at hb
    cases hb

/-- There is room. -/
theorem exists_send (a : α) (h : c.buf.length < c.cap) : ∃ c', c.send a = some c' := ⟨_, dif_pos h⟩

/-- There is something. -/
theorem exists_recv {rest : List α} (h : c.buf = a :: rest) : ∃ c', c.recv = some (a, c') := by
  unfold recv
  split
  · rename_i hb
    rw [h] at hb
    cases hb
  · rename_i b bs hb
    rw [h] at hb
    cases hb
    exact ⟨_, rfl⟩

end Chan
