import IntelliL3.Lib.Run

/-! # What programs preserve

An invariant that an action keeps whether it returns or raises, and the rules by
which a program keeps what its parts keep.
-/

namespace IntelliL3.Lib

variable {ε σ τ α β : Type} {I : σ → Prop}

/-- From a state with the invariant the action leads to one with it, returning or raising. -/
def Maintains (I : σ → Prop) (action : EStateM ε σ α) : Prop :=
  ∀ s, I s → I (EStateResult.state (action s))

namespace Maintains

protected theorem pure (a : α) : Maintains I (pure a : EStateM ε σ α) := fun _ held => held

protected theorem throw (e : ε) : Maintains I (throw e : EStateM ε σ α) := fun _ held => held

protected theorem raising (result : Except ε α) :
    Maintains I (raising result : EStateM ε σ α) := by
  intro s held
  cases result <;> exact held

protected theorem modify {f : σ → σ} (keep : ∀ s, I s → I (f s)) :
    Maintains I (modify f : EStateM ε σ PUnit) := keep

protected theorem zoom {read : σ → τ} {write : σ → τ → σ} {action : EStateM ε τ α}
    (keep : ∀ s, I s → I (write s (EStateResult.state (action (read s))))) :
    Maintains I (zoom read write action) := by
  intro s held
  have next := keep s held
  rw [zoom_run]
  cases ran : action (read s) <;> rw [ran] at next <;> exact next

protected theorem bind {first : EStateM ε σ α} {next : α → EStateM ε σ β} (head : Maintains I first)
    (tail : ∀ a, Maintains I (next a)) : Maintains I (first >>= next) := by
  intro s held
  have middle := head s held
  rw [bind_run]
  cases ran : first s with
  | error e m =>
      rw [ran] at middle
      exact middle
  | ok a m =>
      rw [ran] at middle
      exact tail a m middle

protected theorem foldlM {body : β → α → EStateM ε σ β} (each : ∀ b a, Maintains I (body b a))
    (items : List α) (b : β) : Maintains I (items.foldlM body b) := by
  induction items generalizing b with
  | nil => exact .pure b
  | cons a rest ih =>
      rw [List.foldlM_cons]
      exact (each b a).bind ih

/-- A program that reads its state first may use that the invariant holds of it. -/
theorem bind_get {next : σ → EStateM ε σ β} (tail : ∀ s, I s → Maintains I (next s)) :
    Maintains I (get >>= next) :=
  fun s held => tail s held s held

protected theorem tryCatch {body : EStateM ε σ α} {handler : ε → EStateM ε σ α}
    (tried : Maintains I body) (handled : ∀ e, Maintains I (handler e)) :
    Maintains I (tryCatch body handler) := by
  intro s held
  have middle := tried s held
  rw [tryCatch_run]
  cases ran : body s with
  | ok a m =>
      rw [ran] at middle
      exact middle
  | error e m =>
      rw [ran] at middle
      exact handled e m middle

end Maintains

end IntelliL3.Lib
