import Mathlib.Algebra.Order.Floor.Ring
import Mathlib.Algebra.Order.Floor.Semiring
import Mathlib.Algebra.Order.Field.Basic
import Mathlib.Data.List.GetD
import Mathlib.Data.List.Pairwise
import Mathlib.Data.List.Sort
import Mathlib.Tactic.Linarith
import Mathlib.Tactic.Ring

/-! # Interpolated percentiles

A sequence is read at a fractional rank on the line between the two members next to
it. Along a rising sequence that value rises with the rank, and so do the percentiles of
any values.
-/

namespace IntelliL3.Lib

variable {K : Type} [Field K] [LinearOrder K]

/-! ## Order statistics -/

/-- The member of some values at a place in their order, the last one from there on. -/
def orderStatistic (values : List K) (i : ℕ) : K :=
  (values.insertionSort (· ≤ ·)).getD (min i (values.length - 1)) 0

section

variable {values : List K}

theorem place_lt {α : Type} [LinearOrder α] {values : List α} (some : values ≠ []) (i : ℕ) :
    min i (values.length - 1) < (values.insertionSort (· ≤ ·)).length := by
  rw [List.length_insertionSort]
  have positive := List.length_pos_iff.mpr some
  omega

theorem orderStatistic_mem (some : values ≠ []) (i : ℕ) : orderStatistic values i ∈ values := by
  rw [orderStatistic, List.getD_eq_getElem _ _ (place_lt some i)]
  exact (List.mem_insertionSort _).mp (List.getElem_mem (place_lt some i))

theorem orderStatistic_mono (values : List K) : Monotone (orderStatistic values) := by
  intro i j le
  by_cases some : values = []
  · subst some
    exact le_rfl
  · rw [orderStatistic, orderStatistic, List.getD_eq_getElem _ _ (place_lt some i),
      List.getD_eq_getElem _ _ (place_lt some j)]
    exact @List.Pairwise.rel_get_of_le _ _ _ _ (List.pairwise_insertionSort (· ≤ ·) values)
      ⟨_, place_lt some i⟩ ⟨_, place_lt some j⟩ (min_le_min_right _ le)

end

/-! ## Between two members -/

section

variable [FloorSemiring K]

/-- The value of a sequence at a rank between two of its members. -/
def interpolate (f : ℕ → K) (rank : K) : K :=
  f ⌊rank⌋₊ + (rank - ⌊rank⌋₊) * (f ⌈rank⌉₊ - f ⌊rank⌋₊)

variable {f : ℕ → K} {rank a b lo hi : K}

/-- The same line, drawn to the next member even where a member is hit. -/
theorem interpolate_succ (nonneg : 0 ≤ rank) :
    interpolate f rank = f ⌊rank⌋₊ + (rank - ⌊rank⌋₊) * (f (⌊rank⌋₊ + 1) - f ⌊rank⌋₊) := by
  unfold interpolate
  rcases (Nat.floor_le nonneg).eq_or_lt with hit | between
  · rw [hit, sub_self, zero_mul, zero_mul]
  · have next : ⌈rank⌉₊ = ⌊rank⌋₊ + 1 :=
      le_antisymm (Nat.ceil_le_floor_add_one rank) (Nat.lt_ceil.mpr between)
    rw [next]

variable [IsStrictOrderedRing K]

theorem floor_le_interpolate (rising : Monotone f) (nonneg : 0 ≤ rank) :
    f ⌊rank⌋₊ ≤ interpolate f rank := by
  rw [interpolate_succ nonneg]
  exact le_add_of_nonneg_right (mul_nonneg (sub_nonneg.mpr (Nat.floor_le nonneg))
    (sub_nonneg.mpr (rising (Nat.le_succ _))))

theorem interpolate_le_succ (rising : Monotone f) (nonneg : 0 ≤ rank) :
    interpolate f rank ≤ f (⌊rank⌋₊ + 1) := by
  rw [interpolate_succ nonneg]
  have part : rank - ⌊rank⌋₊ ≤ 1 := by
    have below := (Nat.lt_floor_add_one rank).le
    linarith
  have gap : 0 ≤ f (⌊rank⌋₊ + 1) - f ⌊rank⌋₊ := sub_nonneg.mpr (rising (Nat.le_succ _))
  calc f ⌊rank⌋₊ + (rank - ⌊rank⌋₊) * (f (⌊rank⌋₊ + 1) - f ⌊rank⌋₊)
      ≤ f ⌊rank⌋₊ + 1 * (f (⌊rank⌋₊ + 1) - f ⌊rank⌋₊) :=
        add_le_add_right (mul_le_mul_of_nonneg_right part gap) _
    _ = f (⌊rank⌋₊ + 1) := by ring

/-- Along a rising sequence the value rises with the rank. -/
theorem interpolate_mono (rising : Monotone f) (nonneg : 0 ≤ a) (le : a ≤ b) :
    interpolate f a ≤ interpolate f b := by
  have nonneg' := nonneg.trans le
  rcases (Nat.floor_mono le).eq_or_lt with same | apart
  · rw [interpolate_succ nonneg, interpolate_succ nonneg', same]
    exact add_le_add_right (mul_le_mul_of_nonneg_right (sub_le_sub_right le _)
      (sub_nonneg.mpr (rising (Nat.le_succ _)))) _
  · exact (interpolate_le_succ rising nonneg).trans
      ((rising apart).trans (floor_le_interpolate rising nonneg'))

theorem interpolate_mem (rising : Monotone f) (within : ∀ i, lo ≤ f i ∧ f i ≤ hi)
    (nonneg : 0 ≤ rank) : lo ≤ interpolate f rank ∧ interpolate f rank ≤ hi :=
  ⟨(within _).1.trans (floor_le_interpolate rising nonneg),
    (interpolate_le_succ rising nonneg).trans (within _).2⟩

end

/-! ## Percentiles -/

section

variable [IsStrictOrderedRing K] {values : List K} {percent lo hi : K}

theorem rank_nonneg (values : List K) (nonneg : 0 ≤ percent) :
    0 ≤ percent / 100 * ((values.length - 1 : ℕ) : K) :=
  mul_nonneg (div_nonneg nonneg (by norm_num)) (Nat.cast_nonneg _)

variable [FloorSemiring K]

/-- The percentile of some values, between their order statistics. -/
def linearPercentile (values : List K) (percent : K) : K :=
  interpolate (orderStatistic values) (percent / 100 * ((values.length - 1 : ℕ) : K))

theorem linearPercentile_mono (values : List K) {more : K} (nonneg : 0 ≤ percent)
    (le : percent ≤ more) : linearPercentile values percent ≤ linearPercentile values more := by
  refine interpolate_mono (orderStatistic_mono values) (rank_nonneg values nonneg) ?_
  exact mul_le_mul_of_nonneg_right (div_le_div_of_nonneg_right le (by norm_num))
    (Nat.cast_nonneg _)

/-- A percentile is between any bounds of the values. -/
theorem linearPercentile_mem (some : values ≠ []) (within : ∀ x ∈ values, lo ≤ x ∧ x ≤ hi)
    (nonneg : 0 ≤ percent) :
    lo ≤ linearPercentile values percent ∧ linearPercentile values percent ≤ hi :=
  interpolate_mem (orderStatistic_mono values)
    (fun i => within _ (orderStatistic_mem some i)) (rank_nonneg values nonneg)

end

end IntelliL3.Lib
