import Mathlib.Data.List.Forall2
import IntelliL3.Lib.Interpolation

/-! # Values that are pointwise no larger

Sorting keeps that order: where one list is nowhere larger than another, so are its order
statistics and its percentiles.
-/

namespace IntelliL3.Lib

/-- Where two functions agree along two lists, they list the same values. -/
theorem map_eq_of_forall₂ {α β γ : Type} {R : α → β → Prop} {f : α → γ} {g : β → γ} {xs : List α}
    {ys : List β} (each : List.Forall₂ R xs ys) (agree : ∀ {x y}, R x y → f x = g y) :
    xs.map f = ys.map g := by
  induction each with
  | nil => rfl
  | cons first _ ih => rw [List.map_cons, List.map_cons, agree first, ih]

section

variable {α : Type} [LinearOrder α] {a b : α} {xs ys : List α}

/-- What holds of two lists along a third holds along each other. -/
theorem forall₂_of_common {κ α β : Type} {R : κ → α → Prop} {S : κ → β → Prop} {T : α → β → Prop}
    {ks : List κ} {xs : List α} {ys : List β} (each : List.Forall₂ R ks xs)
    (each' : List.Forall₂ S ks ys) (both : ∀ {k x y}, R k x → S k y → T x y) :
    List.Forall₂ T xs ys := by
  induction each generalizing ys with
  | nil =>
      cases each'
      exact .nil
  | cons first _ ih =>
      cases each' with
      | cons first' rest' => exact .cons (both first first') (ih rest')

theorem countP_eq_of_forall₂ {α β : Type} {R : α → β → Prop} {p : α → Bool} {q : β → Bool}
    {xs : List α} {ys : List β} (each : List.Forall₂ R xs ys) (same : ∀ {a b}, R a b → p a = q b) :
    xs.countP p = ys.countP q := by
  induction each with
  | nil => rfl
  | cons first _ ih => rw [List.countP_cons, List.countP_cons, ih, same first]


theorem orderedInsert_head (sorted : (a :: xs).Pairwise (· ≤ ·)) :
    xs.orderedInsert (· ≤ ·) a = a :: xs := by
  cases xs with
  | nil => rfl
  | cons x rest => exact List.orderedInsert_cons_of_le _ _ (List.rel_of_pairwise_cons sorted
      List.mem_cons_self)

theorem orderedInsert_le (le : a ≤ b) (each : List.Forall₂ (· ≤ ·) xs ys)
    (sorted : xs.Pairwise (· ≤ ·)) (sorted' : ys.Pairwise (· ≤ ·)) :
    List.Forall₂ (· ≤ ·) (xs.orderedInsert (· ≤ ·) a) (ys.orderedInsert (· ≤ ·) b) := by
  induction each generalizing a b with
  | nil => exact .cons le .nil
  | @cons x y xs ys first rest ih =>
      have head : xs.orderedInsert (· ≤ ·) x = x :: xs :=
        orderedInsert_head sorted
      have head' : ys.orderedInsert (· ≤ ·) y = y :: ys :=
        orderedInsert_head sorted'
      rw [List.orderedInsert_cons, List.orderedInsert_cons]
      by_cases before : a ≤ x
      · rw [if_pos before]
        by_cases before' : b ≤ y
        · rw [if_pos before']
          exact .cons le (.cons first rest)
        · rw [if_neg before', ← head]
          exact .cons (before.trans first)
            (ih (first.trans (le_of_not_ge before')) sorted.of_cons sorted'.of_cons)
      · rw [if_neg before]
        by_cases before' : b ≤ y
        · rw [if_pos before', ← head']
          exact .cons ((le_of_not_ge before).trans le)
            (ih (le.trans before') sorted.of_cons sorted'.of_cons)
        · rw [if_neg before']
          exact .cons first (ih le sorted.of_cons sorted'.of_cons)

theorem insertionSort_le (each : List.Forall₂ (· ≤ ·) xs ys) :
    List.Forall₂ (· ≤ ·) (xs.insertionSort (· ≤ ·)) (ys.insertionSort (· ≤ ·)) := by
  induction each with
  | nil => exact .nil
  | cons first _ ih =>
      exact orderedInsert_le first ih (List.pairwise_insertionSort (· ≤ ·) _)
        (List.pairwise_insertionSort (· ≤ ·) _)

end

section

variable {K : Type} [Field K] [LinearOrder K] {xs ys : List K}

theorem orderStatistic_le (each : List.Forall₂ (· ≤ ·) xs ys) (i : ℕ) :
    orderStatistic xs i ≤ orderStatistic ys i := by
  by_cases some : xs = []
  · subst some
    cases each
    exact le_rfl
  · have some' : ys ≠ [] := by
      rintro rfl
      cases each
      exact some rfl
    rw [orderStatistic, orderStatistic, ← each.length_eq]
    have inside := place_lt some i
    have inside' := inside
    rw [(insertionSort_le each).length_eq] at inside'
    rw [List.getD_eq_getElem _ _ inside, List.getD_eq_getElem _ _ inside']
    exact (insertionSort_le each).get inside inside'

variable [IsStrictOrderedRing K]

variable [FloorSemiring K]

theorem interpolate_le {f g : ℕ → K} {rank : K} (le : ∀ i, f i ≤ g i) (nonneg : 0 ≤ rank) :
    interpolate f rank ≤ interpolate g rank := by
  have low := Nat.floor_le nonneg
  have high := (Nat.lt_floor_add_one rank).le
  rw [interpolate_succ nonneg, interpolate_succ nonneg]
  have weighted : ∀ h : ℕ → K, h ⌊rank⌋₊ + (rank - ⌊rank⌋₊) * (h (⌊rank⌋₊ + 1) - h ⌊rank⌋₊) =
      (1 - (rank - ⌊rank⌋₊)) * h ⌊rank⌋₊ + (rank - ⌊rank⌋₊) * h (⌊rank⌋₊ + 1) := fun h => by ring
  rw [weighted, weighted]
  exact add_le_add (mul_le_mul_of_nonneg_left (le _) (by linarith))
    (mul_le_mul_of_nonneg_left (le _) (by linarith))

theorem linearPercentile_le (each : List.Forall₂ (· ≤ ·) xs ys) {percent : K}
    (nonneg : 0 ≤ percent) : linearPercentile xs percent ≤ linearPercentile ys percent := by
  rw [linearPercentile, linearPercentile, each.length_eq]
  exact interpolate_le (orderStatistic_le each) (rank_nonneg ys nonneg)

end

end IntelliL3.Lib
