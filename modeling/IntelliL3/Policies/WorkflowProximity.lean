import Mathlib.Order.WithBot
import IntelliL3.Policies.WorkflowVictim

/-! # Proximity in workflow-aware eviction

Where the candidates differ in the workflow component only, their distances in the
workflow graph decide. In exact arithmetic the block that is evicted is a farthest one;
rounded scores may not tell the distances apart, and then the place in the list decides.
-/

namespace IntelliL3

open Lib EvictionEvent

namespace WorkflowAwareEviction

/-- The candidates differ in the workflow component alone. -/
structure AlikeButWorkflow (F : Type) [LinearOrder F] [Zero F] [One F] [Add F] [Sub F] [Neg F]
    [Mul F] [Div F] [RatCast F] (float : String → Option PyFloat) (s : WorkflowAwareEviction)
    (now : Rat) (block other : KVCacheBlock) : Prop where
  recency : s.recencyScore F block.objMeta.objectId now =
    s.recencyScore F other.objMeta.objectId now
  frequency : s.frequencyScore F block.objMeta.objectId =
    s.frequencyScore F other.objMeta.objectId
  shared : s.sharedScore F block = s.sharedScore F other
  prefixReuse : clamp01 (block.objMeta.reuseScore : F) = clamp01 (other.objMeta.reuseScore : F)
  size : s.sizePenalty F block = s.sizePenalty F other
  reload : s.reloadCostPenalty F float block = s.reloadCostPenalty F float other

/-- How many steps a workflow takes to the next one of an agent; infinitely many without a
    graph, a current step or an agent, for an unknown current step and without a future step. -/
def stepsAway (graph : Option AgentStepGraph) (currentStepId agentId : Option String) :
    WithTop Nat :=
  match graph, currentStepId, agentId with
  | some graph, some currentStepId, some agentId =>
      match graph.stepsToExecution agentId currentStepId with
      | .ok (some steps) => steps
      | .ok none | .error _ => ⊤
  | _, _, _ => ⊤

/-- The policy asks its graph, and takes whatever is infinitely far for no answer. -/
theorem stepsAway_eq (s : WorkflowAwareEviction) (agentId : Option String) :
    stepsAway s.graph s.currentStepId agentId = (s.stepsToUse agentId).elim ⊤ WithTop.some := by
  unfold stepsAway stepsToUse
  cases s.graph with
  | none => rfl
  | some graph =>
      cases s.currentStepId with
      | none => rfl
      | some currentStepId =>
          cases agentId with
          | none => rfl
          | some agentId =>
              simp only
              rcases graph.stepsToExecution agentId currentStepId with e | (_ | steps) <;> rfl

section

variable {s : WorkflowAwareEviction} {float : String → Option PyFloat} {now : Rat}
variable {block other : KVCacheBlock}

/-- How far away a policy takes the use of a block to be. -/
def distance (s : WorkflowAwareEviction) (block : KVCacheBlock) : WithTop Nat :=
  stepsAway s.graph s.currentStepId block.objMeta.agentId

/-- The nearer a block is to its use, the higher it scores. -/
theorem workflowNextUseScore_le_iff (unset : block.objMeta.expectedNextUseStep = none)
    (unset' : other.objMeta.expectedNextUseStep = none) :
    s.workflowNextUseScore Rat block ≤ s.workflowNextUseScore Rat other ↔
      s.distance other ≤ s.distance block := by
  unfold workflowNextUseScore distance
  rw [unset, unset', stepsAway_eq, stepsAway_eq]
  cases s.stepsToUse block.objMeta.agentId with
  | none =>
      refine iff_of_true ?_ le_top
      cases s.stepsToUse other.objMeta.agentId with
      | none => exact le_rfl
      | some steps => exact (closeness_mem_unit (Nat.cast_nonneg steps)).1
  | some steps =>
      have positive : (0 : Rat) < 1 / (1 + steps) := by positivity
      cases s.stepsToUse other.objMeta.agentId with
      | none => exact iff_of_false positive.not_ge (WithTop.coe_lt_top steps).not_ge
      | some steps' =>
          have nearer := closeness_le_iff (Nat.cast_nonneg (α := Rat) steps)
            (Nat.cast_nonneg (α := Rat) steps')
          rw [Nat.cast_le] at nearer
          exact nearer.trans WithTop.coe_le_coe.symm

theorem scoreBlock_le_iff_distance (weighty : 0 < s.settings.wWorkflow)
    (alike : AlikeButWorkflow Rat float s now block other)
    (unset : block.objMeta.expectedNextUseStep = none)
    (unset' : other.objMeta.expectedNextUseStep = none) :
    s.scoreBlock Rat float block now ≤ s.scoreBlock Rat float other now ↔
      s.distance other ≤ s.distance block := by
  rw [← workflowNextUseScore_le_iff unset unset']
  simp only [scoreBlock, scoreComponents, alike.recency, alike.frequency, alike.shared,
    alike.prefixReuse, alike.size, alike.reload, sub_le_sub_iff_right, add_le_add_iff_left]
  exact mul_le_mul_iff_of_pos_left weighty

/-- A score of doubles does not fall as the use comes nearer, but it may stay. -/
theorem scoreBlock_le_of_distance (alike : AlikeButWorkflow PyFloat float s now block other)
    (unset : block.objMeta.expectedNextUseStep = none)
    (unset' : other.objMeta.expectedNextUseStep = none)
    (nearer : s.distance other ≤ s.distance block) :
    s.scoreBlock PyFloat float block now ≤ s.scoreBlock PyFloat float other now := by
  refine scoreBlock_le alike.recency.le ?_ alike.frequency alike.shared alike.prefixReuse
    alike.size alike.reload
  unfold distance at nearer
  unfold workflowNextUseScore
  rw [stepsAway_eq, stepsAway_eq] at nearer
  rw [unset, unset']
  cases away : s.stepsToUse block.objMeta.agentId with
  | none =>
      have component := s.workflowNextUseScore_double other
      simp only [workflowNextUseScore, unset'] at component
      exact component.1
  | some steps =>
      rw [away] at nearer
      cases away' : s.stepsToUse other.objMeta.agentId with
      | none =>
          rw [away'] at nearer
          exact absurd nearer (WithTop.coe_lt_top steps).not_ge
      | some steps' =>
          rw [away'] at nearer
          have fewer : steps' ≤ steps := WithTop.coe_le_coe.mp nearer
          exact PyFloat.closeness_antitone (PyFloat.round_nonneg (Nat.cast_nonneg steps'))
            (PyFloat.round_mono (Nat.cast_le.mpr fewer))

/-- In exact arithmetic, where candidates differ in the workflow component alone, none is
    farther from its use than the one that is evicted. -/
theorem workflow_proximity (float : String → Option PyFloat) (s : WorkflowAwareEviction)
    {candidates : List KVCacheBlock} (given : candidates ≠ []) (now : Rat)
    (weighty : 0 < s.settings.wWorkflow)
    (unset : ∀ block ∈ candidates, block.objMeta.expectedNextUseStep = none)
    (alike : ∀ block ∈ candidates, ∀ other ∈ candidates,
      AlikeButWorkflow Rat float s now block other) :
    ∃ decision, ∃ chosen ∈ candidates,
      s.selectVictim Rat float (fun _ => now) candidates = some decision ∧
        decision.objectId = chosen.objMeta.objectId ∧
        ∀ other ∈ candidates, s.distance other ≤ s.distance chosen := by
  obtain ⟨place, chosen, first, selected⟩ :=
    selectVictim_first (F := Rat) float s (fun _ => now) given
  have candidate := List.mem_of_getElem? first.found
  refine ⟨_, chosen, candidate, selected, rfl, fun other member => ?_⟩
  obtain ⟨i, found⟩ := List.getElem?_of_mem member
  exact (scoreBlock_le_iff_distance weighty (alike chosen candidate other member)
    (unset chosen candidate) (unset other member)).mp (first.least i other found)

/-- The first of the farthest candidates stands apart: no nearer one that comes before it is
    rounded to its score. -/
def FarthestApart (distance : KVCacheBlock → WithTop Nat) (score : KVCacheBlock → PyFloat)
    (candidates : List KVCacheBlock) : Prop :=
  ∃ (place : Nat) (far : KVCacheBlock), candidates[place]? = some far ∧
    (∀ other ∈ candidates, distance other ≤ distance far) ∧
    ∀ (i : Nat) (block : KVCacheBlock), candidates[i]? = some block →
      distance block < distance far → i < place → score far ≠ score block

/-- Where a nearer candidate does not score lower, the one that is chosen is a farthest one
    exactly when the first of these stands apart. -/
theorem farthest_iff_apart {distance : KVCacheBlock → WithTop Nat}
    {score : KVCacheBlock → PyFloat} {candidates : List KVCacheBlock} {place : Nat}
    {chosen : KVCacheBlock} (first : FirstLeastAt (fun _ => score) candidates place chosen)
    (protects : ∀ block ∈ candidates, ∀ other ∈ candidates, distance other ≤ distance block →
      score block ≤ score other) :
    (∀ other ∈ candidates, distance other ≤ distance chosen) ↔
      FarthestApart distance score candidates := by
  have nearer_iff : ∀ {far}, (∀ other ∈ candidates, distance other ≤ distance far) →
      far ∈ candidates → ∀ {block}, block ∈ candidates →
      (¬ (∀ other ∈ candidates, distance other ≤ distance block) ↔
        distance block < distance far) := by
    intro far farthest member block candidate
    refine ⟨fun nearer => lt_of_not_ge fun reaches => nearer fun other other_mem =>
      (farthest other other_mem).trans reaches, fun below all => (all far member).not_gt below⟩
  rw [first.iff_ahead (P := fun block => ∀ other ∈ candidates, distance other ≤ distance block)]
  constructor
  · rintro ⟨place, far, found, farthest, ahead⟩
    have member := List.mem_of_getElem? found
    refine ⟨place, far, found, farthest, fun i block found' below => ?_⟩
    exact (ahead i block found'
      ((nearer_iff farthest member (List.mem_of_getElem? found')).mpr below)).2
  · rintro ⟨place, far, found, farthest, apart⟩
    have member := List.mem_of_getElem? found
    refine ⟨place, far, found, farthest, fun i block found' nearer => ?_⟩
    have candidate := List.mem_of_getElem? found'
    have below := (nearer_iff farthest member candidate).mp nearer
    exact ⟨protects far member block candidate below.le, apart i block found' below⟩

end

section

variable {graph : Option AgentStepGraph} {currentStepId : Option String}
variable {recencyWeight frequencyWeight sharedWeight prefixWeight workflowWeight sizeWeight
  reloadWeight reloadCostNormalizerMs : Rat} {sizeNormalizerBytes : Int}
variable {fresh : WorkflowAwareEviction} {candidates : List KVCacheBlock}

/-- How far the agent of a block is from the step that the calls leave a workflow at, in the
    graph that they leave. -/
def distanceAfter (calls : List WorkflowAwareCall) (graph : Option AgentStepGraph)
    (currentStepId : Option String) (block : KVCacheBlock) : WithTop Nat :=
  stepsAway (graph.map (WorkflowAwareCall.graphAfter calls))
    (WorkflowAwareCall.stepAfter calls currentStepId) block.objMeta.agentId

end

section

private def agentBlock (agentId : String) : KVCacheBlock where
  objMeta := { ObjectMeta.new .kvCache agentId 0 with agentId := some agentId }

/-- A workflow in which the agent `near` is next and the agent `far` comes after it. -/
private def twoSteps : List StepGraphCall :=
  [.addStep "w" "s0" "here" none 0, .addStep "w" "s1" "near" none 1,
    .addStep "w" "s2" "far" none 2]

private def twoAgents : AgentStepGraph := drive AgentStepGraph.exec .empty twoSteps

private def agents : List KVCacheBlock := [agentBlock "near", agentBlock "far"]

private def addedAgents : List WorkflowAwareCall :=
  [.notified (.added (agentBlock "near") 10), .notified (.added (agentBlock "far") 10)]

private theorem mem_agents {block : KVCacheBlock} :
    block ∈ agents ↔ block = agentBlock "near" ∨ block = agentBlock "far" := by
  simp only [agents, List.mem_cons, List.not_mem_nil, or_false]

private theorem agents_unset :
    ∀ block ∈ agents, block.objMeta.expectedNextUseStep = none := by
  intro block candidate
  rcases mem_agents.mp candidate with rfl | rfl <;> rfl

private theorem agents_alike (float : String → Option PyFloat) {fresh : WorkflowAwareEviction}
    (start : Fresh fresh) : ∀ block ∈ agents, ∀ other ∈ agents,
      AlikeButWorkflow PyFloat float (drive exec fresh addedAgents) 10 block other := by
  have recency : ∀ block ∈ agents,
      (drive exec fresh addedAgents).recencyScore PyFloat block.objMeta.objectId 10 = 1 := by
    intro block candidate
    have touched : lastTouch (WorkflowAwareCall.events addedAgents) block.objMeta.objectId =
        some 10 := by
      rcases mem_agents.mp candidate with rfl | rfl <;> decide +kernel
    simp only [recencyScore, accessTimes_get? start, touched]
    decide +kernel
  have counted : ∀ block ∈ agents,
      (drive exec fresh addedAgents).accessCounts.get? block.objMeta.objectId = some 1 := by
    intro block candidate
    rcases mem_agents.mp candidate with rfl | rfl <;>
      simp [drive, addedAgents, exec, notify, onBlockAdded, trackShared, agentBlock,
        ObjectMeta.new, Dict.get?_set]
  intro block candidate other candidate'
  have recency := (recency block candidate).trans (recency other candidate').symm
  have frequency : (drive exec fresh addedAgents).frequencyScore PyFloat block.objMeta.objectId =
      (drive exec fresh addedAgents).frequencyScore PyFloat other.objMeta.objectId := by
    rw [frequencyScore, frequencyScore, counted block candidate, counted other candidate']
  rcases mem_agents.mp candidate with rfl | rfl <;>
    rcases mem_agents.mp candidate' with rfl | rfl <;>
    exact ⟨recency, frequency, rfl, rfl, rfl, rfl⟩

end

end WorkflowAwareEviction

end IntelliL3
