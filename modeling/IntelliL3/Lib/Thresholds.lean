import Mathlib.Order.Interval.Set.Defs
import Mathlib.Order.MinMax

/-! # Two thresholds

A level that rises by one when a measured rate is above a high threshold, falls by one when
it is below a low one, and stays between two bounds.
-/

namespace IntelliL3.Lib

variable {T : Type} [LinearOrder T]

/-- The next level. -/
def nudge (low high : T) (least most : Nat) (rate : T) (level : Nat) : Nat :=
  if high < rate then min (level + 1) most
  else if rate < low then max (level - 1) least
  else level

variable {low high rate rate' : T} {least most level level' : Nat}

theorem nudge_mem (bounded : level ∈ Set.Icc least most) :
    nudge low high least most rate level ∈ Set.Icc least most := by
  obtain ⟨above, below⟩ := bounded
  unfold nudge
  split
  · exact ⟨le_min (Nat.le_succ_of_le above) (above.trans below), min_le_right _ _⟩
  · split
    · exact ⟨le_max_right _ _, max_le ((Nat.sub_le _ _).trans below) (above.trans below)⟩
    · exact ⟨above, below⟩

/-- The level moves by one at most. -/
theorem nudge_near (bounded : level ∈ Set.Icc least most) :
    nudge low high least most rate level ≤ level + 1 ∧
      level ≤ nudge low high least most rate level + 1 := by
  obtain ⟨above, below⟩ := bounded
  unfold nudge
  split
  · exact ⟨min_le_left _ _, by omega⟩
  · split
    · exact ⟨by omega, by omega⟩
    · exact ⟨Nat.le_succ _, Nat.le_succ _⟩

/-- A rate that is not low does not lower the level. -/
theorem le_nudge (bounded : level ≤ most) (fair : low ≤ rate) :
    level ≤ nudge low high least most rate level := by
  unfold nudge
  split
  · exact le_min (Nat.le_succ _) bounded
  · rw [if_neg (not_lt.mpr fair)]

/-- A rate that is not high does not raise the level. -/
theorem nudge_le (bounded : least ≤ level) (fair : rate ≤ high) :
    nudge low high least most rate level ≤ level := by
  rw [nudge, if_neg (not_lt.mpr fair)]
  split
  · exact max_le (Nat.sub_le _ _) bounded
  · exact le_rfl

/-- From a level and a rate that are no lower the next level is no lower: both rise, both
    fall, or the lower one does not rise and the higher one does not fall. -/
theorem nudge_mono (ordered : low ≤ high) (bounded : level ∈ Set.Icc least most)
    (bounded' : level' ∈ Set.Icc least most) (rates : rate ≤ rate') (levels : level ≤ level') :
    nudge low high least most rate level ≤ nudge low high least most rate' level' := by
  rcases lt_or_ge high rate with high' | fair
  · rw [nudge, nudge, if_pos high', if_pos (high'.trans_le rates)]
    exact min_le_min_right most (Nat.succ_le_succ levels)
  · rcases lt_or_ge rate' low with low' | fair'
    · rw [nudge, nudge, if_neg (not_lt.mpr fair), if_pos (rates.trans_lt low'),
        if_neg (not_lt.mpr (low'.le.trans ordered)), if_pos low']
      exact max_le_max_right least (Nat.sub_le_sub_right levels 1)
    · exact (nudge_le bounded.1 fair).trans (levels.trans (le_nudge bounded'.2 fair'))

end IntelliL3.Lib
