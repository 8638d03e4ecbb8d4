import IntelliL3.Policies.WorkflowScores

/-! # Rounded scores of workflow-aware eviction

The components as doubles. Every step of a score is rounded, and none turns two scores
around: a score does not fall as the block is more recent or nearer to its use. Nor does
it come to NaN, so the candidates of a policy are all comparable.
-/

namespace IntelliL3.WorkflowAwareEviction

open Lib

variable {s : WorkflowAwareEviction} {float : String → Option PyFloat} {block other : KVCacheBlock}
variable {now now' w : Rat} {x y : PyFloat}

theorem weighted_notNegative (nonneg : 0 ≤ w) (nonneg' : 0 ≤ x) :
    ((w : PyFloat) * x).NotNegative :=
  .mul (PyFloat.round_nonneg nonneg) nonneg'

theorem weighted_le (nonneg : 0 ≤ w) (small : w < PyFloat.overflow) (unit : x ∈ Set.Icc 0 1)
    (unit' : y ∈ Set.Icc 0 1) (le : x ≤ y) : (w : PyFloat) * x ≤ w * y := by
  obtain ⟨q, low, -, weight⟩ := PyFloat.cast_eq_finite nonneg small
  rw [weight]
  exact PyFloat.mul_le_mul_left low unit unit' le

theorem weighted_ne_inf (nonneg : 0 ≤ w) (small : w < PyFloat.overflow) (le : x ≤ 1) :
    (w : PyFloat) * x ≠ .inf := by
  obtain ⟨q, low, high, weight⟩ := PyFloat.cast_eq_finite nonneg small
  rw [weight]
  exact PyFloat.mul_ne_inf low high le

theorem weighted_eq_finite (nonneg : 0 ≤ w) (small : w < PyFloat.overflow)
    (unit : x ∈ Set.Icc 0 1) : ∃ r, (w : PyFloat) * x = .finite r ∧ 0 ≤ r := by
  obtain ⟨q, low, high, weight⟩ := PyFloat.cast_eq_finite nonneg small
  rw [weight]
  exact PyFloat.mul_eq_finite low high unit

theorem recencyScore_double (s : WorkflowAwareEviction) (objectId : String) (now : Rat) :
    s.recencyScore PyFloat objectId now ∈ Set.Icc 0 1 := by
  unfold recencyScore
  split
  · exact Set.left_mem_Icc.mpr PyFloat.zero_le_one
  · exact PyFloat.closeness_mem_unit (le_max_left 0 _)

theorem workflowNextUseScore_double (s : WorkflowAwareEviction) (block : KVCacheBlock) :
    s.workflowNextUseScore PyFloat block ∈ Set.Icc 0 1 := by
  unfold workflowNextUseScore
  split
  · next step expected =>
      split
      · exact Set.left_mem_Icc.mpr PyFloat.zero_le_one
      · next coming =>
          exact PyFloat.closeness_mem_unit
            (PyFloat.round_nonneg (Int.cast_nonneg (not_lt.mp coming)))
  · split
    · exact Set.left_mem_Icc.mpr PyFloat.zero_le_one
    · exact PyFloat.closeness_mem_unit (PyFloat.round_nonneg (Nat.cast_nonneg _))

theorem frequencyScore_double_nonneg (s : WorkflowAwareEviction) (objectId : String) :
    0 ≤ s.frequencyScore PyFloat objectId := by
  have ten : ((10 : Rat) : PyFloat) = .finite 10 := by decide +kernel
  rw [frequencyScore, ten]
  exact le_min PyFloat.zero_le_one
    (PyFloat.div_nonneg (PyFloat.round_nonneg (Nat.cast_nonneg _)) (by decide))

theorem sharedScore_double_nonneg (s : WorkflowAwareEviction) (block : KVCacheBlock) :
    0 ≤ s.sharedScore PyFloat block :=
  PyFloat.round_nonneg (by positivity)

theorem reloadCostPenalty_double_le (s : WorkflowAwareEviction)
    (float : String → Option PyFloat) (block : KVCacheBlock) :
    s.reloadCostPenalty PyFloat float block ≤ 1 := by
  unfold reloadCostPenalty
  split
  · exact PyFloat.zero_le_one
  · exact PyFloat.zero_le_one
  · split
    · exact PyFloat.zero_le_one
    · exact min_le_left 1 _
  · exact le_rfl
  · exact le_rfl

/-- Rounding does not turn two scores around: the more recent block that is the nearer to its
    use does not score lower, when the rest is the same. -/
theorem scoreBlock_le
    (recency : s.recencyScore PyFloat block.objMeta.objectId now ≤
      s.recencyScore PyFloat other.objMeta.objectId now')
    (workflow : s.workflowNextUseScore PyFloat block ≤ s.workflowNextUseScore PyFloat other)
    (frequency : s.frequencyScore PyFloat block.objMeta.objectId =
      s.frequencyScore PyFloat other.objMeta.objectId)
    (shared : s.sharedScore PyFloat block = s.sharedScore PyFloat other)
    (reuse : clamp01 (block.objMeta.reuseScore : PyFloat) =
      clamp01 (other.objMeta.reuseScore : PyFloat))
    (size : s.sizePenalty PyFloat block = s.sizePenalty PyFloat other)
    (reload : s.reloadCostPenalty PyFloat float block =
      s.reloadCostPenalty PyFloat float other) :
    s.scoreBlock PyFloat float block now ≤ s.scoreBlock PyFloat float other now' := by
  have finite := s.settings.convertible
  simp only [List.forall_mem_cons] at finite
  obtain ⟨recencyFinite, -, -, -, workflowFinite, sizeFinite, reloadFinite, -⟩ := finite
  simp only [scoreBlock, scoreComponents, frequency, shared, reuse, size, reload]
  have later := weighted_le s.settings.recencyNonneg recencyFinite
    (s.recencyScore_double _ now) (s.recencyScore_double _ now') recency
  have nearer := weighted_le s.settings.workflowNonneg workflowFinite
    (s.workflowNextUseScore_double block) (s.workflowNextUseScore_double other) workflow
  have first := weighted_notNegative s.settings.recencyNonneg
    (s.recencyScore_double other.objMeta.objectId now').1
  have second := weighted_notNegative s.settings.frequencyNonneg
    (s.frequencyScore_double_nonneg other.objMeta.objectId)
  have third := weighted_notNegative s.settings.sharedNonneg (s.sharedScore_double_nonneg other)
  have fourth := weighted_notNegative s.settings.prefixNonneg
    (le_max_left 0 (min 1 (other.objMeta.reuseScore : PyFloat)))
  have fifth := weighted_notNegative s.settings.workflowNonneg
    (s.workflowNextUseScore_double block).1
  have size := weighted_ne_inf s.settings.sizeNonneg sizeFinite
    (min_le_left 1 _ : s.sizePenalty PyFloat other ≤ 1)
  have reload := weighted_ne_inf s.settings.reloadNonneg reloadFinite
    (s.reloadCostPenalty_double_le float other)
  refine PyFloat.sub_le_sub_right (PyFloat.sub_le_sub_right ?_ size) reload
  refine le_trans ?_
    (PyFloat.add_le_add_left nearer (((first.add second).add third).add fourth).ne_negInf)
  refine PyFloat.add_le_add_right ?_ fifth.ne_negInf
  refine PyFloat.add_le_add_right ?_ fourth.ne_negInf
  exact PyFloat.add_le_add_right (PyFloat.add_le_add_right later second.ne_negInf) third.ne_negInf

theorem sharedScore_double (part : block.sharedBySessions.length ≤ s.maxShared) :
    s.sharedScore PyFloat block ∈ Set.Icc 0 1 :=
  ⟨s.sharedScore_double_nonneg block,
    (PyFloat.round_mono (sharedScore_mem_unit part).2).trans_eq PyFloat.round_one⟩

theorem sizePenalty_double (s : WorkflowAwareEviction) (sized : 0 ≤ block.objMeta.sizeBytes)
    (converts : (block.objMeta.sizeBytes : Rat) < PyFloat.overflow) :
    s.sizePenalty PyFloat block ∈ Set.Icc 0 1 := by
  have normal : s.settings.sizeNormalizer < PyFloat.overflow :=
    s.settings.convertible _ (by simp)
  exact ⟨le_min PyFloat.zero_le_one (PyFloat.cast_div_nonneg (Int.cast_nonneg sized) converts
    s.settings.sizePositive.le normal), min_le_left 1 _⟩

theorem reloadCostPenalty_double (s : WorkflowAwareEviction)
    (known : ∀ cost, reloadCost float block = some (.finite cost) → cost < PyFloat.overflow) :
    s.reloadCostPenalty PyFloat float block ∈ Set.Icc 0 1 := by
  have normal : s.settings.reloadCostNormalizer < PyFloat.overflow :=
    s.settings.convertible _ (by simp)
  refine ⟨?_, s.reloadCostPenalty_double_le float block⟩
  unfold reloadCostPenalty
  split
  · exact le_rfl
  · exact le_rfl
  · next cost costs =>
      split
      · exact le_rfl
      · next positive =>
          exact le_min PyFloat.zero_le_one (PyFloat.cast_div_nonneg (not_le.mp positive).le
            (known cost costs) s.settings.reloadPositive.le normal)
  · exact PyFloat.zero_le_one
  · exact PyFloat.zero_le_one

/-- The score of a registered block is no NaN, so scores are compared as numbers are. -/
theorem scoreBlock_ne_nan (part : block.sharedBySessions.length ≤ s.maxShared)
    (sized : 0 ≤ block.objMeta.sizeBytes)
    (converts : (block.objMeta.sizeBytes : Rat) < PyFloat.overflow)
    (known : ∀ cost, reloadCost float block = some (.finite cost) → cost < PyFloat.overflow)
    (now : Rat) : s.scoreBlock PyFloat float block now ≠ .nan := by
  have finite := s.settings.convertible
  simp only [List.forall_mem_cons] at finite
  obtain ⟨recencyFinite, frequencyFinite, sharedFinite, prefixFinite, workflowFinite, sizeFinite,
    reloadFinite, -⟩ := finite
  obtain ⟨recency, eq₁, low₁⟩ := weighted_eq_finite s.settings.recencyNonneg recencyFinite
    (s.recencyScore_double block.objMeta.objectId now)
  obtain ⟨frequency, eq₂, low₂⟩ := weighted_eq_finite s.settings.frequencyNonneg frequencyFinite
    ⟨s.frequencyScore_double_nonneg block.objMeta.objectId, min_le_left 1 _⟩
  obtain ⟨shared, eq₃, low₃⟩ := weighted_eq_finite s.settings.sharedNonneg sharedFinite
    (sharedScore_double part)
  obtain ⟨reuse, eq₄, low₄⟩ := weighted_eq_finite s.settings.prefixNonneg prefixFinite
    (x := clamp01 (block.objMeta.reuseScore : PyFloat))
    ⟨le_max_left 0 _, max_le PyFloat.zero_le_one (min_le_left 1 _)⟩
  obtain ⟨workflow, eq₅, low₅⟩ := weighted_eq_finite s.settings.workflowNonneg workflowFinite
    (s.workflowNextUseScore_double block)
  obtain ⟨size, eq₆, -⟩ := weighted_eq_finite s.settings.sizeNonneg sizeFinite
    (s.sizePenalty_double sized converts)
  obtain ⟨reload, eq₇, -⟩ := weighted_eq_finite s.settings.reloadNonneg reloadFinite
    (s.reloadCostPenalty_double known)
  have nonneg {r : Rat} (low : 0 ≤ r) : (0 : PyFloat) ≤ .finite r :=
    PyFloat.finite_le_finite.mpr low
  simp only [scoreBlock, scoreComponents, eq₁, eq₂, eq₃, eq₄, eq₅, eq₆, eq₇]
  refine PyFloat.sub_finite_ne_nan (PyFloat.sub_finite_ne_nan ?_ size) reload
  have sum := PyFloat.add_nonneg (PyFloat.add_nonneg (PyFloat.add_nonneg
    (PyFloat.add_nonneg (nonneg low₁) (nonneg low₂)) (nonneg low₃)) (nonneg low₄)) (nonneg low₅)
  rintro unknown
  rw [unknown] at sum
  cases PyFloat.le_nan_iff.mp sum

end IntelliL3.WorkflowAwareEviction
