import IntelliL3.Lib.Run

/-! # Machines side by side

A machine whose calls carry a key, each call working on the part of the state under its key.
However the calls of different keys are interleaved, those of one key do what they would do on
their own.
-/

namespace IntelliL3.Lib

variable {ε σ τ κ C ρ : Type} [DecidableEq κ]

/-- A call that has a key changes the part under it, by what it finds there, and no other. -/
structure Keyed (exec : C → EStateM ε σ ρ) (key : C → Option κ) (part : κ → σ → τ) : Prop where
  frame : ∀ c k s, key c ≠ some k → part k (EStateResult.state (exec c s)) = part k s
  own : ∀ c k s t, key c = some k → part k s = part k t →
    EStateResult.outcome (exec c s) = EStateResult.outcome (exec c t) ∧
      part k (EStateResult.state (exec c s)) = part k (EStateResult.state (exec c t))

/-- The calls of a key. -/
def callsOf (key : C → Option κ) (k : κ) (calls : List C) : List C :=
  calls.filter fun c => key c = some k

/-- What the calls of a key return or raise in a history of all. -/
def outcomesOf (exec : C → EStateM ε σ ρ) (key : C → Option κ) (k : κ) (s : σ) (calls : List C) :
    List (Except ε ρ) :=
  ((calls.zip (outcomes exec s calls)).filter fun row => key row.1 = some k).map Prod.snd

namespace Keyed

variable {exec : C → EStateM ε σ ρ} {key : C → Option κ} {part : κ → σ → τ} {k : κ} {s t : σ}

theorem part_drive (keyed : Keyed exec key part) (calls : List C) (same : part k s = part k t) :
    part k (drive exec s calls) = part k (drive exec t (callsOf key k calls)) := by
  induction calls generalizing s t with
  | nil => exact same
  | cons c rest ih =>
      by_cases mine : key c = some k
      · rw [callsOf, List.filter_cons_of_pos (by simpa using mine)]
        exact ih (keyed.own c k s t mine same).2
      · rw [callsOf, List.filter_cons_of_neg (by simpa using mine)]
        exact ih ((keyed.frame c k s mine).trans same)

/-- The calls of one key return and raise what they would on their own. -/
theorem outcomesOf_eq (keyed : Keyed exec key part) (calls : List C)
    (same : part k s = part k t) :
    outcomesOf exec key k s calls = outcomes exec t (callsOf key k calls) := by
  induction calls generalizing s t with
  | nil => rfl
  | cons c rest ih =>
      by_cases mine : key c = some k
      · obtain ⟨outcome, later⟩ := keyed.own c k s t mine same
        rw [callsOf, List.filter_cons_of_pos (by simpa using mine), outcomes, outcomesOf, outcomes,
          List.zip_cons_cons, List.filter_cons_of_pos (by simpa using mine), List.map_cons, outcome]
        exact congrArg _ (ih later)
      · rw [callsOf, List.filter_cons_of_neg (by simpa using mine), outcomesOf, outcomes,
          List.zip_cons_cons, List.filter_cons_of_neg (by simpa using mine)]
        exact ih ((keyed.frame c k s mine).trans same)

end Keyed

end IntelliL3.Lib
