import Mathlib.Algebra.Order.Field.Basic
import Mathlib.Order.Interval.Set.Basic
import Mathlib.Tactic.Linarith

/-! # Scores between zero and one

Closeness falls from one to zero as a distance grows, a share is a part of a whole,
a capped ratio stops at one. Weighting keeps a score between zero and its weight.
-/

namespace IntelliL3.Lib

variable {κ : Type*} [Field κ] [LinearOrder κ] [IsStrictOrderedRing κ] {a b w x : κ}

/-- Closeness of something a distance away. -/
theorem closeness_mem_unit (nonneg : 0 ≤ a) : 1 / (1 + a) ∈ Set.Icc (0 : κ) 1 := by
  have positive : 0 < 1 + a := by linarith
  refine ⟨(one_div_pos.mpr positive).le, ?_⟩
  rw [div_le_one positive]
  linarith

theorem closeness_le_iff (nonneg : 0 ≤ a) (nonneg' : 0 ≤ b) :
    1 / (1 + a) ≤ 1 / (1 + b) ↔ b ≤ a := by
  rw [one_div_le_one_div (by linarith) (by linarith), add_le_add_iff_left]

/-- Reciprocals are ordered the other way round, except across zero. -/
theorem one_div_le_one_div_iff_not_across (ha : a ≠ 0) (hb : b ≠ 0) (below : b < a) :
    1 / a ≤ 1 / b ↔ ¬ (b < 0 ∧ 0 < a) := by
  rcases hb.lt_or_gt with negative | positive
  · rcases ha.lt_or_gt with negative' | positive'
    · rw [one_div_le_one_div_of_neg negative' negative]
      exact iff_of_true below.le fun across => across.2.not_gt negative'
    · have apart : 1 / b < 1 / a := (one_div_neg.mpr negative).trans (one_div_pos.mpr positive')
      exact iff_of_false apart.not_ge fun within => within ⟨negative, positive'⟩
  · rw [one_div_le_one_div (positive.trans below) positive]
    exact iff_of_true below.le fun across => across.1.not_gt positive

theorem capped_mem_unit (nonneg : 0 ≤ a) : min 1 a ∈ Set.Icc (0 : κ) 1 :=
  ⟨le_min zero_le_one nonneg, min_le_left 1 a⟩

theorem clamped_mem_unit (a : κ) : max 0 (min 1 a) ∈ Set.Icc (0 : κ) 1 :=
  ⟨le_max_left 0 _, max_le zero_le_one (min_le_left 1 a)⟩

theorem weighted_mem (nonneg : 0 ≤ w) (unit : x ∈ Set.Icc (0 : κ) 1) : w * x ∈ Set.Icc 0 w :=
  ⟨mul_nonneg nonneg unit.1, mul_le_of_le_one_right nonneg unit.2⟩

/-- A share is at most one exactly when it is a part. -/
theorem share_mem_unit_iff {part whole : Nat} (some : 0 < whole) :
    (part / whole : κ) ∈ Set.Icc (0 : κ) 1 ↔ part ≤ whole := by
  have positive : (0 : κ) < whole := Nat.cast_pos.mpr some
  rw [Set.mem_Icc, div_le_one positive, Nat.cast_le]
  exact and_iff_right (div_nonneg (Nat.cast_nonneg part) positive.le)

/-- The share of a part, taken to be zero where there is no whole. -/
theorem share_or_zero_mem_unit {part whole : Nat} (le : part ≤ whole) :
    (if whole ≠ 0 then (part / whole : κ) else 0) ∈ Set.Icc (0 : κ) 1 := by
  split
  · next some => exact (share_mem_unit_iff (Nat.pos_of_ne_zero some)).mpr le
  · exact ⟨le_rfl, zero_le_one⟩

end IntelliL3.Lib
