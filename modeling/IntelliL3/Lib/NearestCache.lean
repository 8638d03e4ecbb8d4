import Mathlib.Data.List.Induction
import Mathlib.Order.Lattice
import IntelliL3.Lib.Run

/-! # Caches answered by the most similar row

A call is answered by a row whose key is most similar to it, if that similarity
reaches a threshold. Otherwise its response is generated, and becomes a row.
-/

namespace IntelliL3.Lib

/-- The rows of a cache, and the state its generators work on. -/
structure NearestCache (K R γ : Type) where
  rows : List (K × R)
  outside : γ

/-- What makes calls of type `C` hit keys of type `K`, and what generates their responses. -/
structure NearestSpec (C K R S ε γ : Type) where
  key : C → K
  similarity : C → K → S
  threshold : S
  generate : C → EStateM ε γ R

namespace NearestSpec

variable {C K R S ε γ : Type} [LinearOrder S] (spec : NearestSpec C K R S ε γ)

/-- Some row is similar enough. -/
def Hit (rows : List (K × R)) (c : C) : Prop :=
  ∃ row ∈ rows, spec.threshold ≤ spec.similarity c row.1

instance (rows : List (K × R)) (c : C) : Decidable (spec.Hit rows c) :=
  inferInstanceAs (Decidable (∃ row ∈ rows, spec.threshold ≤ spec.similarity c row.1))

/-- No row is more similar. -/
def Best (rows : List (K × R)) (c : C) (row : K × R) : Prop :=
  row ∈ rows ∧ ∀ other ∈ rows, spec.similarity c other.1 ≤ spec.similarity c row.1

/-- A hit leaves everything as it is; a miss runs its generator. -/
def step (cache : NearestCache K R γ) (c : C) : NearestCache K R γ :=
  if spec.Hit cache.rows c then cache
  else match spec.generate c cache.outside with
    | .ok response outside => ⟨cache.rows ++ [(spec.key c, response)], outside⟩
    | .error _ outside => { cache with outside }

/-- What a caller may be told: the response of a best row, or what was generated. -/
def Answers (cache : NearestCache K R γ) (c : C) (answer : Except ε (R × Bool)) : Prop :=
  if spec.Hit cache.rows c then ∃ row, spec.Best cache.rows c row ∧ answer = .ok (row.2, true)
  else answer = (EStateResult.outcome (spec.generate c cache.outside)).map fun response =>
    (response, false)

/-- Only one row is most similar. -/
def Untied (rows : List (K × R)) (c : C) : Prop :=
  ∀ row other, spec.Best rows c row → spec.Best rows c other → row = other

/-- The cache after some calls, starting without rows. -/
def replay (outside : γ) (calls : List C) : NearestCache K R γ :=
  calls.foldl spec.step ⟨[], outside⟩

variable {spec} {cache : NearestCache K R γ} {c : C}

theorem Best.hit_iff {rows : List (K × R)} {row : K × R} (best : spec.Best rows c row) :
    spec.Hit rows c ↔ spec.threshold ≤ spec.similarity c row.1 := by
  constructor
  · rintro ⟨other, member, reaches⟩
    exact le_trans reaches (best.2 other member)
  · exact fun reaches => ⟨row, best.1, reaches⟩

theorem step_hit (hit : spec.Hit cache.rows c) : spec.step cache c = cache := if_pos hit

theorem step_generated (miss : ¬ spec.Hit cache.rows c) {response : R} {outside : γ}
    (generated : spec.generate c cache.outside = .ok response outside) :
    spec.step cache c = ⟨cache.rows ++ [(spec.key c, response)], outside⟩ := by
  rw [step, if_neg miss, generated]

theorem step_raised (miss : ¬ spec.Hit cache.rows c) {e : ε} {outside : γ}
    (raised : spec.generate c cache.outside = .error e outside) :
    spec.step cache c = { cache with outside } := by
  rw [step, if_neg miss, raised]

/-- The response of a best row that reaches the threshold is an answer. -/
theorem answers_best {row : K × R} (best : spec.Best cache.rows c row)
    (reaches : spec.threshold ≤ spec.similarity c row.1) :
    spec.Answers cache c (.ok (row.2, true)) := by
  rw [Answers, if_pos (best.hit_iff.mpr reaches)]
  exact ⟨row, best, rfl⟩

/-- Without a tie there is one answer. -/
theorem Answers.unique {answer other : Except ε (R × Bool)} (untied : spec.Untied cache.rows c)
    (first : spec.Answers cache c answer) (second : spec.Answers cache c other) :
    answer = other := by
  by_cases hit : spec.Hit cache.rows c
  · rw [Answers, if_pos hit] at first second
    obtain ⟨row, best, rfl⟩ := first
    obtain ⟨row', best', rfl⟩ := second
    rw [untied row row' best best']
  · rw [Answers, if_neg hit] at first second
    exact first.trans second.symm

/-- Rows are never lost. -/
theorem length_le_step (cache : NearestCache K R γ) (c : C) :
    cache.rows.length ≤ (spec.step cache c).rows.length := by
  unfold step
  split
  · exact Nat.le_refl _
  · split
    · rw [List.length_append]
      exact Nat.le_add_right _ _
    · exact Nat.le_refl _

theorem replay_concat (outside : γ) (calls : List C) (c : C) :
    spec.replay outside (calls ++ [c]) = spec.step (spec.replay outside calls) c := by
  simp only [replay, List.foldl_append, List.foldl_cons, List.foldl_nil]

variable (spec) in
theorem length_le_foldl (cache : NearestCache K R γ) (calls : List C) :
    cache.rows.length ≤ (calls.foldl spec.step cache).rows.length := by
  induction calls generalizing cache with
  | nil => exact Nat.le_refl _
  | cons c rest ih => exact Nat.le_trans (length_le_step cache c) (ih (spec.step cache c))

variable (spec) in
theorem length_le_replay (outside : γ) (first second : List C) :
    (spec.replay outside first).rows.length ≤
      (spec.replay outside (first ++ second)).rows.length := by
  rw [replay, replay, List.foldl_append]
  exact spec.length_le_foldl _ second

end NearestSpec

end IntelliL3.Lib
