import Mathlib.Data.List.Basic
import Mathlib.Data.List.TakeDrop

/-! # Bounded histories

The last values of a history, and a broadcast channel that keeps as many as its capacity.
A receiver has a position of its own and is told that it lags once the value at its
position is gone. What the channel stands for is the history of all values sent.
-/
namespace SolanaArb.General

/-- The last `n` values. -/
def lastN {α : Type*} (n : ℕ) (l : List α) : List α := l.drop (l.length - n)

section LastN
variable {α : Type*} {n : ℕ} {l : List α}

theorem length_lastN (n : ℕ) (l : List α) : (lastN n l).length = min n l.length := by
  rw [lastN, List.length_drop]
  omega

theorem lastN_of_length_le (h : l.length ≤ n) : lastN n l = l := by
  rw [lastN, Nat.sub_eq_zero_of_le h, List.drop_zero]

/-- One more value, less the oldest if there are too many. -/
theorem lastN_snoc (n : ℕ) (l : List α) (a : α) :
    (lastN n l ++ [a]).drop ((lastN n l).length + 1 - n) = lastN n (l ++ [a]) := by
  have hle : l.length - n ≤ l.length := Nat.sub_le _ _
  have hcount : l.length - n + ((lastN n l).length + 1 - n) = l.length + 1 - n := by
    rw [length_lastN]
    omega
  rw [lastN, ← List.drop_append_of_le_length hle, List.drop_drop, ← lastN, hcount, lastN,
    List.length_append, List.length_singleton]

/-- The newest values are among the last ones. -/
theorem mem_lastN_append {l' : List α} {a : α} (hlength : l'.length ≤ n) (ha : a ∈ l') :
    a ∈ lastN n (l ++ l') := by
  have hle : (l ++ l').length - n ≤ l.length := by
    rw [List.length_append]
    omega
  rw [lastN, List.drop_append_of_le_length hle]
  exact List.mem_append_right _ ha

/-- What is not among the last values comes after them or not at all. -/
theorem mem_of_mem_lastN_append {l' : List α} {a : α} (ha : a ∈ lastN n (l ++ l'))
    (hold : a ∉ lastN n l) : a ∈ l' := by
  rw [lastN, List.drop_append, List.mem_append] at ha
  rcases ha with hl | hl'
  · refine absurd (List.drop_subset_drop_left l ?_ hl) hold
    rw [List.length_append]
    omega
  · exact List.mem_of_mem_drop hl'

end LastN

/-- A channel with the values it keeps, oldest first, and the number of values sent. -/
structure Broadcast (α : Type*) where
  capacity : ℕ
  kept : List α
  tail : ℕ

/-- What a receiver gets. -/
inductive Received (α : Type*)
  | value (a : α)
  | lagged (missed : ℕ)
  | waiting
  deriving DecidableEq, Repr

namespace Broadcast
variable {α : Type*}

def new (capacity : ℕ) : Broadcast α := ⟨capacity, [], 0⟩

def send (c : Broadcast α) (a : α) : Broadcast α :=
  { c with
    kept := (c.kept ++ [a]).drop (c.kept.length + 1 - c.capacity)
    tail := c.tail + 1 }

def recv (c : Broadcast α) (next : ℕ) : Received α :=
  if c.tail ≤ next then .waiting
  else if next + c.kept.length < c.tail then .lagged (c.tail - c.kept.length - next)
  else
    match c.kept[next + c.kept.length - c.tail]? with
    | some a => .value a
    | none => .waiting

/-- The channel keeps the end of this history. -/
structure Holds (c : Broadcast α) (history : List α) : Prop where
  tail : c.tail = history.length
  kept : c.kept = lastN c.capacity history

variable {c : Broadcast α} {history : List α} {next since : ℕ} {a : α}

theorem new_holds (capacity : ℕ) : (new capacity : Broadcast α).Holds [] := ⟨rfl, List.drop_nil.symm⟩

theorem Holds.send (h : c.Holds history) (a : α) : (c.send a).Holds (history ++ [a]) := by
  constructor
  · rw [List.length_append, List.length_singleton, ← h.tail]
    rfl
  · have hkept : (c.send a).kept = (c.kept ++ [a]).drop (c.kept.length + 1 - c.capacity) := rfl
    rw [hkept, h.kept, lastN_snoc]
    rfl

/-- A receiver gets the value at its position in the history, unless as many values as the
channel keeps have been sent since. -/
theorem Holds.recv_eq (h : c.Holds history) (next : ℕ) : c.recv next =
    if hnext : next < history.length then
      if next + c.capacity < history.length then
        .lagged (history.length - c.capacity - next)
      else .value history[next]
    else .waiting := by
  have hlength : c.kept.length = min c.capacity history.length := by
    rw [h.kept, length_lastN]
  unfold recv
  rw [h.tail]
  by_cases hnext : next < history.length
  · rw [if_neg (Nat.not_le.mpr hnext), dif_pos hnext]
    by_cases hlag : next + c.capacity < history.length
    · rw [if_pos hlag, if_pos (by omega)]
      congr 1
      omega
    · rw [if_neg hlag, if_neg (by omega)]
      have hindex : history.length - c.capacity + (next + c.kept.length - history.length) = next := by
        omega
      rw [h.kept, lastN, List.getElem?_drop, ← lastN, ← h.kept, hindex,
        List.getElem?_eq_getElem hnext]
  · rw [if_pos (Nat.not_lt.mp hnext), dif_neg hnext]

theorem Holds.recv_value (h : c.Holds history) (hrecv : c.recv next = .value a) :
    history[next]? = some a := by
  rw [h.recv_eq] at hrecv
  split at hrecv
  · next hnext =>
    split at hrecv
    · cases hrecv
    · cases hrecv
      exact List.getElem?_eq_getElem hnext
  · cases hrecv

/-- Receiving the next value extends the segment received. -/
theorem segment_snoc (hsince : since ≤ next) (hnext : history[next]? = some a) :
    (history.take (next + 1)).drop since = (history.take next).drop since ++ [a] := by
  obtain ⟨hlt, rfl⟩ := List.getElem?_eq_some_iff.mp hnext
  have hlength : since ≤ (history.take next).length := by
    rw [List.length_take]
    omega
  rw [List.take_add_one, hnext, Option.toList_some, List.drop_append_of_le_length hlength]

end Broadcast

end SolanaArb.General
