import Mathlib.Algebra.BigOperators.Group.Finset.Piecewise
import Mathlib.Algebra.Order.BigOperators.Group.Finset
import Mathlib.Algebra.Order.Monoid.Canonical.Defs

/-! # Commitments

An account with an open commitment for each key. A new commitment raises the budget
by its amount and replaces the one the key had; settling a commitment spends its amount
and closes it. What is spent never exceeds the budget, since each amount spent was
committed before.
-/

namespace IntelliL3.Lib

variable {κ M : Type} [AddCommMonoid M]

theorem sum_update [DecidableEq κ] (owed : κ → M) (id : κ) (amount : M) (ids : Finset κ) :
    ∑ other ∈ ids, Function.update owed id amount other =
      (if id ∈ ids then amount else 0) + ∑ other ∈ ids.erase id, owed other := by
  split
  · next member => rw [Finset.sum_update_of_mem member, Finset.sdiff_singleton_eq_erase]
  · next outside =>
      rw [Finset.sum_update_of_notMem outside, Finset.erase_eq_of_notMem outside, zero_add]

variable [PartialOrder M]

/-- What is spent and what is still owed, at any keys, is within the budget. -/
def Covered (spent budget : M) (owed : κ → M) : Prop :=
  ∀ ids : Finset κ, spent + ∑ id ∈ ids, owed id ≤ budget

namespace Covered

variable {spent budget : M} {owed : κ → M}

theorem nothing : Covered (0 : M) 0 (fun _ : κ => 0) := by
  intro ids
  rw [Finset.sum_const_zero, add_zero]

theorem le (covered : Covered spent budget owed) : spent ≤ budget := by
  have none := covered ∅
  rwa [Finset.sum_empty, add_zero] at none

/-- A commitment is settled from what it was covered by. -/
theorem settle [DecidableEq κ] (covered : Covered spent budget owed) (id : κ) :
    Covered (spent + owed id) budget (Function.update owed id 0) := by
  intro ids
  have together := covered (insert id (ids.erase id))
  rw [Finset.sum_insert (Finset.notMem_erase id ids), ← add_assoc] at together
  rw [sum_update, ite_self, zero_add]
  exact together

variable [IsOrderedAddMonoid M]

theorem mono (covered : Covered spent budget owed) {fewer : κ → M}
    (less : ∀ id, fewer id ≤ owed id) : Covered spent budget fewer := fun ids =>
  (add_le_add_right (Finset.sum_le_sum fun id _ => less id) spent).trans (covered ids)

variable [DecidableEq κ] [CanonicallyOrderedAdd M]

/-- A commitment is covered by the budget it brings. -/
theorem commit (covered : Covered spent budget owed) (id : κ) (amount : M) :
    Covered spent (budget + amount) (Function.update owed id amount) := by
  intro ids
  rw [sum_update, add_left_comm, add_comm]
  refine add_le_add (covered _) ?_
  split
  · exact le_rfl
  · exact zero_le

/-- A commitment that is dropped leaves what it was covered by. -/
theorem drop (covered : Covered spent budget owed) (id : κ) :
    Covered spent budget (Function.update owed id 0) := by
  have replaced := covered.commit id 0
  rwa [add_zero] at replaced

end Covered

end IntelliL3.Lib
