import Mathlib.Data.Set.Card
import Mathlib.Logic.Function.Basic

/-! # How full a partial map is

The number of keys at which a partial map has a value, while it has finitely
many, and what clearing one key does to it.
-/

namespace IntelliL3.Lib

variable {κ α : Type}

/-- The keys with a value. -/
def occupied (f : κ → Option α) : Set κ := { key | (f key).isSome }

noncomputable def occupancy (f : κ → Option α) : Nat := (occupied f).ncard

theorem mem_occupied {f : κ → Option α} {key : κ} : key ∈ occupied f ↔ (f key).isSome := Iff.rfl

variable [DecidableEq κ]

theorem occupied_clear (f : κ → Option α) (key : κ) :
    occupied (Function.update f key none) = occupied f \ {key} := by
  ext other
  simp only [occupied, Set.mem_ofPred_eq, Set.mem_sdiff, Set.mem_singleton_iff]
  by_cases here : other = key
  · subst here
    simp
  · simp [here]

variable {f : κ → Option α}

/-- Clearing a key takes away one value, if it had one. -/
theorem occupancy_clear (finite : (occupied f).Finite) (key : κ) :
    occupancy (Function.update f key none) + (if (f key).isSome then 1 else 0) = occupancy f := by
  rw [occupancy, occupancy, occupied_clear]
  split
  · next present => exact Set.ncard_sdiff_singleton_add_one (mem_occupied.mpr present) finite
  · next absent => rw [Set.sdiff_singleton_eq_self (mt mem_occupied.mp absent), Nat.add_zero]

end IntelliL3.Lib
