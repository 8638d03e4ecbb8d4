import Mathlib.Data.List.Basic
import Mathlib.Data.List.Nodup

/-! # Blocks of one size

A list that is laid out in blocks, one after another and all of one size.
-/

namespace IntelliL3.Lib.Blocks

variable {α : Type}

/-- The member at a place is the one at its place within its block. -/
theorem flatMap_range (f : ℕ → ℕ → α) (blocks size : ℕ) :
    (List.range blocks).flatMap (fun i => (List.range size).map (f i)) =
      (List.range (blocks * size)).map fun k => f (k / size) (k % size) := by
  induction blocks with
  | zero => simp
  | succ blocks ih =>
      rw [List.range_succ, List.flatMap_append, ih, Nat.succ_mul, List.range_add, List.map_append,
        List.flatMap_singleton, List.map_map]
      congr 1
      refine List.map_congr_left fun k within => ?_
      have small : k < size := List.mem_range.mp within
      have place : (blocks * size + k) / size = blocks := by
        rw [Nat.add_comm, Nat.add_mul_div_right _ _ (Nat.zero_lt_of_lt small),
          Nat.div_eq_of_lt small, Nat.zero_add]
      have offset : (blocks * size + k) % size = k := by
        rw [Nat.add_comm, Nat.add_mul_mod_self_right, Nat.mod_eq_of_lt small]
      rw [Function.comp_apply, place, offset]

/-- What follows within a block is at the next place of the same block. -/
theorem succ_within {size k : ℕ} (positive : 0 < size) (within : (k + 1) % size ≠ 0) :
    (k + 1) / size = k / size ∧ (k + 1) % size = k % size + 1 := by
  have split := Nat.mod_add_div k size
  have least := Nat.mod_lt k positive
  have small : k % size + 1 < size := by
    refine Nat.lt_of_le_of_ne least fun full => within ?_
    rw [← split, Nat.add_right_comm, full, Nat.add_mul_mod_self_left, Nat.mod_self]
  rw [← split, Nat.add_right_comm, Nat.add_mul_div_left _ _ positive, Nat.add_mul_mod_self_left,
    Nat.div_eq_of_lt small, Nat.mod_eq_of_lt small, Nat.zero_add, split]
  exact ⟨rfl, rfl⟩

/-- Members that differ by their block or by their place in it are listed once. -/
theorem nodup {f : ℕ → ℕ → α} (apart : ∀ i j i' j', f i j = f i' j' → i = i' ∧ j = j')
    (blocks size : ℕ) :
    ((List.range blocks).flatMap fun i => (List.range size).map (f i)).Nodup := by
  rw [flatMap_range]
  refine List.nodup_range.map fun k k' same => ?_
  obtain ⟨block, place⟩ := apart _ _ _ _ same
  rw [← Nat.div_add_mod k size, block, place, Nat.div_add_mod]

/-- In every block as many members are counted. -/
theorem countP_place (p : ℕ → Bool) (blocks size : ℕ) :
    (List.range (blocks * size)).countP (fun k => p (k % size)) =
      blocks * (List.range size).countP p := by
  have places := flatMap_range (fun _ place => place) blocks size
  calc (List.range (blocks * size)).countP (fun k => p (k % size))
      = ((List.range (blocks * size)).map fun k => k % size).countP p := by
        rw [List.countP_map]
        rfl
    _ = blocks * (List.range size).countP p := by
        rw [← places, List.countP_flatMap]
        simp [Function.comp_def]

theorem countP_range_le (least size : ℕ) :
    (List.range size).countP (fun place => decide (least ≤ place)) = size - least := by
  induction size with
  | zero => simp
  | succ size ih =>
      rw [List.range_succ, List.countP_append, ih, List.countP_singleton]
      simp only [decide_eq_true_eq]
      split <;> omega

end IntelliL3.Lib.Blocks
