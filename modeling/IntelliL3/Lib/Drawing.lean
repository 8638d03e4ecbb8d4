import Mathlib.Data.List.Basic

/-! # Loops that draw

A loop that draws at every turn is a loop over what is drawn: the generator goes its way whatever
the loop makes of it.
-/

namespace IntelliL3.Lib

variable {ρ α β σ : Type}

/-! ## What a draw yields -/

/-- Whatever the state of the generator, what is drawn has a property. -/
def Yields (draw : StateM ρ α) (P : α → Prop) : Prop := ∀ rng, P (draw rng).1

namespace Yields

variable {P : α → Prop} {Q : β → Prop}

theorem pure {a : α} (holds : P a) : Yields (Pure.pure a : StateM ρ α) P := fun _ => holds

theorem bind {draw : StateM ρ α} {next : α → StateM ρ β} (first : Yields draw P)
    (rest : ∀ a, P a → Yields (next a) Q) : Yields (draw >>= next) Q := by
  intro rng
  exact rest (draw rng).1 (first rng) (draw rng).2

theorem trivial {draw : StateM ρ α} : Yields draw (fun _ => True) := fun _ => True.intro

end Yields

/-! ## Draws in a row -/

namespace Drawing

/-- The generator after some draws. -/
def after (draw : Nat → StateM ρ α) (rng : ρ) : Nat → ρ
  | 0 => rng
  | n + 1 => (draw n (after draw rng n)).2

/-- What is drawn after some draws. -/
def drawn (draw : Nat → StateM ρ α) (rng : ρ) (n : Nat) : α := (draw n (after draw rng n)).1

theorem drawn_yields {draw : Nat → StateM ρ α} {P : Nat → α → Prop}
    (yields : ∀ n, Yields (draw n) (P n)) (rng : ρ) (n : Nat) : P n (drawn draw rng n) :=
  yields n (after draw rng n)

/-- A loop over what is drawn, where a turn of the loop draws once and goes on with it. -/
theorem foldlM_range (draw : Nat → StateM ρ α) (turn : σ → Nat → StateM ρ σ)
    (next : σ → Nat → α → σ)
    (turns : ∀ s i rng, turn s i rng = (next s i (draw i rng).1, (draw i rng).2))
    (start : σ) (rng : ρ) (n : Nat) :
    ((List.range n).foldlM turn start) rng =
      ((List.range n).foldl (fun s i => next s i (drawn draw rng i)) start, after draw rng n) := by
  induction n with
  | zero => rfl
  | succ n ih =>
      have last : ((List.range (n + 1)).foldlM turn start) rng =
          turn (((List.range n).foldlM turn start) rng).1 n
            (((List.range n).foldlM turn start) rng).2 := by
        rw [List.range_succ, List.foldlM_append]
        rfl
      rw [last, ih, turns, List.range_succ, List.foldl_append]
      rfl

end Drawing

end IntelliL3.Lib
