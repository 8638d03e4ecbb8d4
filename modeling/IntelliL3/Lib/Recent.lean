import Mathlib.Data.List.DropRight

/-! # Bounded deques

A deque with a bound drops the oldest items when new ones come, so it holds the last of all
the items it was given.
-/

namespace IntelliL3.Lib

variable {α : Type}

/-- `deque(items, maxlen=n).append(item)` -/
def appendRecent (n : Nat) (items : List α) (item : α) : List α := (items ++ [item]).rtake n

/-- What was dropped before would be dropped now. -/
theorem rtake_append_rtake (n : Nat) (items more : List α) :
    (items.rtake n ++ more).rtake n = (items ++ more).rtake n := by
  simp only [List.rtake_eq_reverse_take_reverse, List.reverse_append, List.reverse_reverse,
    List.take_append, List.take_take, min_eq_left (Nat.sub_le _ _)]

/-- Items that are enough leave nothing of the older ones. -/
theorem rtake_append_of_le {n : Nat} {items : List α} (enough : n ≤ items.length)
    (older : List α) : (older ++ items).rtake n = items.rtake n := by
  rw [List.rtake, List.rtake, List.length_append, Nat.add_sub_assoc enough,
    List.drop_length_add_append]

theorem appendRecent_rtake (n : Nat) (items : List α) (item : α) :
    appendRecent n (items.rtake n) item = (items ++ [item]).rtake n :=
  rtake_append_rtake n items [item]

end IntelliL3.Lib
