import IntelliL3.Lib.UnitScore
import IntelliL3.Policies.WorkflowAwareEviction

/-! # Scores of workflow-aware eviction

Each component lies between zero and one, whatever the history, the graph and the
clock, so a score lies between the weights that count against a block and those that
count for it. That is in exact arithmetic.
-/

namespace IntelliL3

open Lib EvictionEvent

/-- `steps_to_execution` raises nothing but the `ValueError` that the policy catches. -/
theorem AgentStepGraph.stepsToExecution_raises {graph : AgentStepGraph}
    {agentId currentStepId : String} {e : PyError}
    (raised : graph.stepsToExecution agentId currentStepId = .error e) :
    ∃ message, e = .valueError message := by
  unfold stepsToExecution requireStep at raised
  cases found : graph.steps.get? currentStepId with
  | none =>
      rw [found] at raised
      cases raised
      exact ⟨_, rfl⟩
  | some current =>
      simp only [found, futureUncompletedSteps, bind, Except.bind] at raised
      split at raised
      · next refused =>
          split at refused
          · cases refused
          · cases refused
            cases raised
            exact ⟨_, rfl⟩
      · cases raised

namespace ScoreComponents

/-- Every component lies between zero and one. -/
structure InUnit (c : ScoreComponents Rat) : Prop where
  recency : c.recency ∈ Set.Icc (0 : Rat) 1
  frequency : c.frequency ∈ Set.Icc (0 : Rat) 1
  sharedSessions : c.sharedSessions ∈ Set.Icc (0 : Rat) 1
  prefixReuse : c.prefixReuse ∈ Set.Icc (0 : Rat) 1
  workflowNextUse : c.workflowNextUse ∈ Set.Icc (0 : Rat) 1
  sizePenalty : c.sizePenalty ∈ Set.Icc (0 : Rat) 1
  reloadCostPenalty : c.reloadCostPenalty ∈ Set.Icc (0 : Rat) 1

end ScoreComponents

namespace WorkflowAwareEviction

variable (s : WorkflowAwareEviction) (float : String → Option PyFloat) (block : KVCacheBlock)

theorem recencyScore_mem_unit (objectId : String) (now : Rat) :
    s.recencyScore Rat objectId now ∈ Set.Icc (0 : Rat) 1 := by
  unfold recencyScore
  split
  · exact Set.left_mem_Icc.mpr zero_le_one
  · exact closeness_mem_unit (le_max_left 0 _)

theorem frequencyScore_mem_unit (objectId : String) :
    s.frequencyScore Rat objectId ∈ Set.Icc (0 : Rat) 1 :=
  capped_mem_unit (by positivity)

theorem workflowNextUseScore_mem_unit : s.workflowNextUseScore Rat block ∈ Set.Icc (0 : Rat) 1 := by
  unfold workflowNextUseScore
  split
  · next step expected =>
      split
      · exact Set.left_mem_Icc.mpr zero_le_one
      · next coming => exact closeness_mem_unit (Int.cast_nonneg (not_lt.mp coming))
  · split
    · exact Set.left_mem_Icc.mpr zero_le_one
    · exact closeness_mem_unit (Nat.cast_nonneg _)

theorem sizePenalty_mem_unit {block : KVCacheBlock} (sized : 0 ≤ block.objMeta.sizeBytes) :
    s.sizePenalty Rat block ∈ Set.Icc (0 : Rat) 1 :=
  capped_mem_unit (div_nonneg (Int.cast_nonneg sized) s.settings.sizePositive.le)

theorem reloadCostPenalty_mem_unit :
    s.reloadCostPenalty Rat float block ∈ Set.Icc (0 : Rat) 1 := by
  unfold reloadCostPenalty
  split
  · exact Set.left_mem_Icc.mpr zero_le_one
  · exact Set.left_mem_Icc.mpr zero_le_one
  · next cost known =>
      split
      · exact Set.left_mem_Icc.mpr zero_le_one
      · next costs =>
          exact capped_mem_unit (div_nonneg (not_le.mp costs).le s.settings.reloadPositive.le)
  · exact Set.right_mem_Icc.mpr zero_le_one
  · exact Set.right_mem_Icc.mpr zero_le_one

variable {s block}

theorem sharedScore_mem_unit (part : block.sharedBySessions.length ≤ s.maxShared) :
    s.sharedScore Rat block ∈ Set.Icc (0 : Rat) 1 :=
  (share_mem_unit_iff (lt_of_lt_of_le Nat.one_pos (le_max_left 1 _))).mpr
    (part.trans (le_max_right 1 _))

theorem scoreComponents_inUnit (part : block.sharedBySessions.length ≤ s.maxShared)
    (sized : 0 ≤ block.objMeta.sizeBytes) (now : Rat) :
    (s.scoreComponents Rat float block now).InUnit where
  recency := s.recencyScore_mem_unit _ now
  frequency := s.frequencyScore_mem_unit _
  sharedSessions := sharedScore_mem_unit part
  prefixReuse := clamped_mem_unit _
  workflowNextUse := s.workflowNextUseScore_mem_unit block
  sizePenalty := s.sizePenalty_mem_unit sized
  reloadCostPenalty := s.reloadCostPenalty_mem_unit float block

/-- Five components count for a block and two against it. -/
theorem score_mem {now : Rat} (unit : (s.scoreComponents Rat float block now).InUnit) :
    (s.scoreComponents Rat float block now).score ∈
      Set.Icc (-(s.settings.wSize + s.settings.wReload))
        (s.settings.wRecency + s.settings.wFrequency + s.settings.wShared + s.settings.wPrefix +
          s.settings.wWorkflow) := by
  have recency := weighted_mem s.settings.recencyNonneg unit.recency
  have frequency := weighted_mem s.settings.frequencyNonneg unit.frequency
  have sharing := weighted_mem s.settings.sharedNonneg unit.sharedSessions
  have reuse := weighted_mem s.settings.prefixNonneg unit.prefixReuse
  have workflow := weighted_mem s.settings.workflowNonneg unit.workflowNextUse
  have size := weighted_mem s.settings.sizeNonneg unit.sizePenalty
  have reload := weighted_mem s.settings.reloadNonneg unit.reloadCostPenalty
  simp only [Set.mem_Icc, scoreComponents, Rat.cast_id] at *
  constructor <;> linarith

/-- After any history, with any graph and at any reading of the clock, the components of a
    registered block lie between zero and one, and its score between the weights. -/
theorem score_components_bounded {graph : Option AgentStepGraph} {currentStepId : Option String}
    {recencyWeight frequencyWeight sharedWeight prefixWeight workflowWeight sizeWeight
      reloadWeight reloadCostNormalizerMs : Rat} {sizeNormalizerBytes : Int}
    {fresh : WorkflowAwareEviction}
    (built : new graph currentStepId recencyWeight frequencyWeight sharedWeight prefixWeight
      workflowWeight sizeWeight reloadWeight sizeNormalizerBytes reloadCostNormalizerMs =
        .ok fresh)
    (calls : List WorkflowAwareCall) {block : KVCacheBlock}
    (registered : Registered (WorkflowAwareCall.events calls) block)
    (sized : 0 ≤ block.objMeta.sizeBytes) (now : Rat) :
    ((drive exec fresh calls).scoreComponents Rat float block now).InUnit ∧
      ((drive exec fresh calls).scoreComponents Rat float block now).score ∈
        Set.Icc (-(sizeWeight + reloadWeight))
          (recencyWeight + frequencyWeight + sharedWeight + prefixWeight + workflowWeight) := by
  obtain ⟨-, weighs, -⟩ := new_spec built
  have unit := scoreComponents_inUnit float (le_maxShared fresh registered) sized now
  have within := score_mem float unit
  rw [settings_drive, weighs.recency, weighs.frequency, weighs.shared, weighs.prefixReuse,
    weighs.workflow, weighs.size, weighs.reload] at within
  exact ⟨unit, within⟩

/-- The constructor takes its own defaults. -/
theorem new_default (graph : Option AgentStepGraph) (currentStepId : Option String) :
    ∃ fresh, new graph currentStepId = .ok fresh := by
  unfold new
  repeat rw [dif_neg (by decide +kernel)]
  exact ⟨_, rfl⟩

private def sizedBlock : KVCacheBlock where
  objMeta := { ObjectMeta.new .kvCache "a" 0 with sizeBytes := 4096 }
  sharedBySessions := ["s1", "s2"]

/-- A shared block, scored at a reading that was set back. -/
theorem score_components_bounded_back : ∃ fresh, new = .ok fresh ∧
    ((drive exec fresh [.notified (.added sizedBlock 5)]).scoreComponents Rat (fun _ => none)
      sizedBlock 3).InUnit := by
  obtain ⟨fresh, built⟩ := new_default none none
  have registered : Registered (WorkflowAwareCall.events [.notified (.added sizedBlock 5)])
      sizedBlock := ⟨_, List.mem_cons_self, sizedBlock, rfl, rfl, rfl⟩
  exact ⟨fresh, built,
    (score_components_bounded (fun _ => none) built _ registered (by decide) 3).1⟩

end WorkflowAwareEviction

end IntelliL3
