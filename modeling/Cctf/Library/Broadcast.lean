import Mathlib.Data.List.Basic

/-!
# Broadcast channels

A channel keeps its last `capacity` messages for receivers that read at their own pace.  A
receiver that has fallen further behind is told how many messages it missed, and goes on
with the oldest one that is left.

* `unread` — the messages sent since a receiver last took one; `send` adds one.
* `recv` — what the receiver takes next, and what is unread then.
* `ahead` — the messages it is still to take; `ahead_recv` and `ahead_send` say how the two
  operations move along it.
-/

namespace Broadcast

variable {α : Type} (capacity : ℕ)

/-- What a receiver takes from a channel. -/
inductive Received (α : Type) where
  | empty
  | lagged (missed : ℕ)
  | message (a : α)
  deriving DecidableEq, Repr

/-- The message that was taken, if it was one. -/
def Received.toList : Received α → List α
  | .message a => [a]
  | _ => []

/-- A message more has been sent. -/
def send (unread : List α) (a : α) : List α := unread ++ [a]

/-- The messages that the channel still has. -/
def ahead (unread : List α) : List α := unread.drop (unread.length - capacity)

/-- Take a message. -/
def recv : List α → Received α × List α
  | [] => (.empty, [])
  | a :: rest =>
    if capacity < rest.length + 1 then
      (.lagged (rest.length + 1 - capacity), ahead capacity (a :: rest))
    else (.message a, rest)

variable {capacity}

/-- A receiver that is not too far behind has everything ahead. -/
theorem ahead_of_le {unread : List α} (h : unread.length ≤ capacity) :
    ahead capacity unread = unread := by
  rw [ahead, Nat.sub_eq_zero_of_le h, List.drop_zero]

theorem length_ahead_le (unread : List α) : (ahead capacity unread).length ≤ capacity := by
  rw [ahead, List.length_drop]
  omega

/-- **Taking a message moves along what is ahead**: nothing that the channel has is lost. -/
theorem ahead_recv (unread : List α) :
    ahead capacity unread =
      (recv capacity unread).1.toList ++ ahead capacity (recv capacity unread).2 := by
  cases unread with
  | nil => simp [recv, ahead, Received.toList]
  | cons a rest =>
    rw [recv]
    by_cases hlag : capacity < rest.length + 1
    · rw [if_pos hlag]
      exact (ahead_of_le (length_ahead_le (a :: rest))).symm
    · rw [if_neg hlag]
      have hall : (a :: rest).length ≤ capacity := Nat.not_lt.mp hlag
      have hrest : rest.length ≤ capacity := Nat.le_of_succ_le hall
      rw [ahead_of_le hall, ahead_of_le hrest]
      rfl

/-- **A message reaches a receiver** that is not a whole channel behind. -/
theorem ahead_send {unread : List α} (h : unread.length < capacity) (a : α) :
    ahead capacity (send unread a) = ahead capacity unread ++ [a] := by
  have hall : (send unread a).length ≤ capacity := by
    rw [send, List.length_append]
    exact h
  rw [ahead_of_le hall, ahead_of_le (Nat.le_of_lt h), send]

end Broadcast
