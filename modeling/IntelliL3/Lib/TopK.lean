import Mathlib.Data.List.Nodup
import Mathlib.Data.List.Perm.Subperm
import Mathlib.Order.Lattice

/-! # The best of a list

Which elements have the highest scores is settled up to ties. What a condition
leaves of the best is compared with the best of what the condition leaves: an
element is missing only when others that fail the condition took its place.
-/

namespace IntelliL3.Lib

variable {α T : Type} [LinearOrder T]

/-- Elements with the highest scores, `k` of them while there are as many. -/
structure TopOf (score : α → T) (k : Nat) (all chosen : List α) : Prop where
  within : chosen ⊆ all
  distinct : chosen.Nodup
  count : chosen.length = min k all.length
  best : ∀ a ∈ all, a ∉ chosen → ∀ b ∈ chosen, score a ≤ score b

/-- Elements that fail the condition with a score no lower than that of one that meets it. -/
def blockers (score : α → T) (p : α → Bool) (all : List α) : List α :=
  all.filter fun b => !p b && (all.filter p).any fun a => decide (score a ≤ score b)

namespace TopOf

variable {score : α → T} {k : Nat} {all chosen : List α}

/-- No element is missing unless as many as asked for are there. -/
theorem length_of_missing (top : TopOf score k all chosen) {a : α} (member : a ∈ all)
    (missing : a ∉ chosen) : chosen.length = k := by
  have shorter : ¬ all.length ≤ chosen.length := fun covers =>
    missing (((top.distinct.subperm top.within).perm_of_length_le covers).mem_iff.mpr member)
  have counted := top.count
  omega

variable (p : α → Bool)

theorem filter_best (top : TopOf score k all chosen) :
    ∀ a ∈ all.filter p, a ∉ chosen.filter p → ∀ b ∈ chosen.filter p, score a ≤ score b := by
  intro a member missing b kept
  obtain ⟨there, meets⟩ := List.mem_filter.mp member
  exact top.best a there (fun held => missing (List.mem_filter.mpr ⟨held, meets⟩)) b
    (List.mem_of_mem_filter kept)

theorem filter_subset (top : TopOf score k all chosen) : chosen.filter p ⊆ all.filter p :=
  fun _ kept => List.mem_filter.mpr ((List.mem_filter.mp kept).imp_left fun held =>
    top.within held)

theorem filter_length_le (top : TopOf score k all chosen) :
    (chosen.filter p).length ≤ min k (all.filter p).length := by
  have among := ((top.distinct.filter p).subperm (top.filter_subset p)).length_le
  have counted := top.count
  have fewer := chosen.length_filter_le p
  omega

/-- An element that is missing leaves room only for elements that meet the condition, and
    for those that block. -/
theorem le_filter_length (top : TopOf score k all chosen) (allDistinct : all.Nodup) :
    min (all.filter p).length (k - (blockers score p all).length) ≤ (chosen.filter p).length := by
  by_cases every : ∀ a ∈ all.filter p, a ∈ chosen.filter p
  · exact Nat.le_trans (Nat.min_le_left _ _)
      ((allDistinct.filter p).subperm every).length_le
  · push Not at every
    obtain ⟨a, member, missing⟩ := every
    obtain ⟨there, meets⟩ := List.mem_filter.mp member
    have notChosen : a ∉ chosen := fun held => missing (List.mem_filter.mpr ⟨held, meets⟩)
    have others : chosen.filter (!p ·) ⊆ blockers score p all := by
      intro b kept
      obtain ⟨held, fails⟩ := List.mem_filter.mp kept
      have below := top.best a there notChosen b held
      refine List.mem_filter.mpr ⟨top.within held, ?_⟩
      rw [fails, Bool.true_and, List.any_eq_true]
      exact ⟨a, member, decide_eq_true below⟩
    have blocked := ((top.distinct.filter (!p ·)).subperm others).length_le
    have split := chosen.length_eq_length_filter_add p
    have full := top.length_of_missing there notChosen
    omega

/-- Where nothing blocks, the condition may be asked afterwards. -/
theorem filter_top (top : TopOf score k all chosen) (allDistinct : all.Nodup)
    (unblocked : blockers score p all = []) :
    TopOf score k (all.filter p) (chosen.filter p) := by
  refine ⟨top.filter_subset p, top.distinct.filter p, ?_, top.filter_best p⟩
  have most := top.filter_length_le p
  have least := top.le_filter_length p allDistinct
  rw [unblocked, List.length_nil] at least
  omega

end TopOf

end IntelliL3.Lib
