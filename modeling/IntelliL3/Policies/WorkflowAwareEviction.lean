import Mathlib.Algebra.Order.Field.Rat
import IntelliL3.Core.Floats
import IntelliL3.Lib.StableSort
import IntelliL3.Metadata.AgentStepGraph
import IntelliL3.Policies.EvictionPolicy

/-! # Workflow-aware eviction

`policies/eviction/workflow_aware.py`: blocks that will be used soon in a workflow are
kept. Seven components, each between zero and one, are weighed into a score, and a
candidate of the lowest score is evicted. The clock is read anew for every score. A score
is computed in any arithmetic: exactly, as a `Rat`, or rounded step by step, as a `PyFloat`.
-/

namespace IntelliL3

open Lib EvictionEvent

/-- The weights and the normalizers, as the constructor lets them pass and `float` takes them. -/
structure WorkflowAwareSettings where
  wRecency : Rat
  wFrequency : Rat
  wShared : Rat
  wPrefix : Rat
  wWorkflow : Rat
  wSize : Rat
  wReload : Rat
  sizeNormalizer : Rat
  reloadCostNormalizer : Rat
  recencyNonneg : 0 ≤ wRecency
  frequencyNonneg : 0 ≤ wFrequency
  sharedNonneg : 0 ≤ wShared
  prefixNonneg : 0 ≤ wPrefix
  workflowNonneg : 0 ≤ wWorkflow
  sizeNonneg : 0 ≤ wSize
  reloadNonneg : 0 ≤ wReload
  sizePositive : 0 < sizeNormalizer
  reloadPositive : 0 < reloadCostNormalizer
  convertible : ∀ value ∈ [wRecency, wFrequency, wShared, wPrefix, wWorkflow, wSize, wReload,
    sizeNormalizer, reloadCostNormalizer], value < PyFloat.overflow

structure WorkflowAwareEviction where
  graph : Option AgentStepGraph
  currentStepId : Option String
  settings : WorkflowAwareSettings
  accessTimes : Dict String Rat := .empty
  accessCounts : Dict String Nat := .empty
  maxShared : Nat := 1

/-- What `score_components` returns. -/
structure ScoreComponents (F : Type) where
  score : F
  recency : F
  frequency : F
  sharedSessions : F
  prefixReuse : F
  workflowNextUse : F
  sizePenalty : F
  reloadCostPenalty : F
  deriving DecidableEq

namespace WorkflowAwareEviction

/-- What `_validate_weight` raises. -/
def negativeWeight (name : String) : PyError := .valueError s!"{name} must be non-negative"

theorem nonneg_of_allowed {weight : Rat} (allowed : ¬ weight < 0) : 0 ≤ weight :=
  Rat.not_lt.mp allowed

theorem bytes_pos_of_allowed {bytes : Int} (allowed : ¬ bytes ≤ 0) : (0 : Rat) < bytes :=
  Rat.intCast_pos.mpr (Int.not_le.mp allowed)

theorem cost_pos_of_allowed {costMs : Rat} (allowed : ¬ costMs ≤ 0) : 0 < costMs :=
  Rat.not_le.mp allowed

theorem lt_overflow_of_converted {values : List Rat}
    (converted : ¬ ∃ value ∈ values, PyFloat.overflow ≤ value) :
    ∀ value ∈ values, value < PyFloat.overflow :=
  fun value given => Rat.not_le.mp fun tooLarge => converted ⟨value, given, tooLarge⟩

def new (graph : Option AgentStepGraph := none) (currentStepId : Option String := none)
    (recencyWeight : Rat := 1 / 4) (frequencyWeight : Rat := 1 / 5)
    (sharedWeight : Rat := 1 / 5) (prefixWeight : Rat := 3 / 20)
    (workflowWeight : Rat := 3 / 10) (sizeWeight : Rat := 1 / 20)
    (reloadWeight : Rat := 1 / 20) (sizeNormalizerBytes : Int := 1024 * 1024)
    (reloadCostNormalizerMs : Rat := 1000) : Except PyError WorkflowAwareEviction :=
  if wrongRecency : recencyWeight < 0 then .error (negativeWeight "recency_weight")
  else if wrongFrequency : frequencyWeight < 0 then .error (negativeWeight "frequency_weight")
  else if wrongShared : sharedWeight < 0 then .error (negativeWeight "shared_weight")
  else if wrongPrefix : prefixWeight < 0 then .error (negativeWeight "prefix_weight")
  else if wrongWorkflow : workflowWeight < 0 then .error (negativeWeight "workflow_weight")
  else if wrongSize : sizeWeight < 0 then .error (negativeWeight "size_weight")
  else if wrongReload : reloadWeight < 0 then .error (negativeWeight "reload_weight")
  else if wrongBytes : sizeNormalizerBytes ≤ 0 then
    .error (.valueError "size_normalizer_bytes must be positive")
  else if wrongCost : reloadCostNormalizerMs ≤ 0 then
    .error (.valueError "reload_cost_normalizer_ms must be positive")
  else if tooLarge : ∃ value ∈ [recencyWeight, frequencyWeight, sharedWeight, prefixWeight,
      workflowWeight, sizeWeight, reloadWeight, (sizeNormalizerBytes : Rat),
      reloadCostNormalizerMs], PyFloat.overflow ≤ value then
    .error (.overflowError "int too large to convert to float")
  else .ok {
    graph
    currentStepId
    settings := {
      wRecency := recencyWeight
      wFrequency := frequencyWeight
      wShared := sharedWeight
      wPrefix := prefixWeight
      wWorkflow := workflowWeight
      wSize := sizeWeight
      wReload := reloadWeight
      sizeNormalizer := sizeNormalizerBytes
      reloadCostNormalizer := reloadCostNormalizerMs
      recencyNonneg := nonneg_of_allowed wrongRecency
      frequencyNonneg := nonneg_of_allowed wrongFrequency
      sharedNonneg := nonneg_of_allowed wrongShared
      prefixNonneg := nonneg_of_allowed wrongPrefix
      workflowNonneg := nonneg_of_allowed wrongWorkflow
      sizeNonneg := nonneg_of_allowed wrongSize
      reloadNonneg := nonneg_of_allowed wrongReload
      sizePositive := bytes_pos_of_allowed wrongBytes
      reloadPositive := cost_pos_of_allowed wrongCost
      convertible := lt_overflow_of_converted tooLarge } }

def setCurrentStep (stepId : Option String) (self : WorkflowAwareEviction) :
    WorkflowAwareEviction :=
  { self with currentStepId := stepId }

def trackShared (block : KVCacheBlock) (self : WorkflowAwareEviction) : WorkflowAwareEviction :=
  { self with maxShared := max self.maxShared block.sharedBySessions.length }

def onBlockAccessed (block : KVCacheBlock) (now : Rat) (self : WorkflowAwareEviction) :
    WorkflowAwareEviction :=
  let objId := block.objMeta.objectId
  trackShared block { self with
    accessTimes := self.accessTimes.set objId now
    accessCounts := self.accessCounts.set objId ((self.accessCounts.get? objId).getD 0 + 1) }

def onBlockAdded (block : KVCacheBlock) (now : Rat) (self : WorkflowAwareEviction) :
    WorkflowAwareEviction :=
  let objId := block.objMeta.objectId
  trackShared block { self with
    accessTimes := self.accessTimes.set objId now
    accessCounts := self.accessCounts.set objId 1 }

def onBlockEvicted (objectId : String) (self : WorkflowAwareEviction) : WorkflowAwareEviction :=
  { self with
    accessTimes := self.accessTimes.erase objectId
    accessCounts := self.accessCounts.erase objectId }

/-- How many steps away the graph sees the agent of a block; the `ValueError` of an unknown
    step is taken for no answer. -/
def stepsToUse (self : WorkflowAwareEviction) (agentId : Option String) : Option Nat :=
  match self.graph, self.currentStepId, agentId with
  | some graph, some currentStepId, some agentId =>
      match graph.stepsToExecution agentId currentStepId with
      | .ok steps => steps
      | .error _ => none
  | _, _, _ => none

/-- The reload cost a block is known to have; `float` is `none` where it raises. -/
def reloadCost (float : String → Option PyFloat) (block : KVCacheBlock) : Option PyFloat :=
  match block.objMeta.predictedToolLatencyMs with
  | some latencyMs => some (.finite latencyMs)
  | none => (block.objMeta.tags.get? "reload_cost_ms").bind float

/-! ## Scores -/

section

-- The arithmetic of the scores. What is read off a block is a number of it by `Rat.cast`,
-- which rounds where the arithmetic does.
variable (F : Type) [LinearOrder F] [Zero F] [One F] [Add F] [Sub F] [Neg F] [Mul F] [Div F]
variable [RatCast F]

variable {F} in
def clamp01 (value : F) : F := max 0 (min 1 value)

/-- A block that is not in the record is as old as can be, a time in the future counts as now. -/
def recencyScore (self : WorkflowAwareEviction) (objectId : String) (now : Rat) : F :=
  match self.accessTimes.get? objectId with
  | none => 0
  | some lastAccess => 1 / (1 + max 0 ((now : F) - (lastAccess : F)))

def frequencyScore (self : WorkflowAwareEviction) (objectId : String) : F :=
  let count : Rat := (self.accessCounts.get? objectId).getD 1
  min 1 ((count : F) / ((10 : Rat) : F))

def sharedScore (self : WorkflowAwareEviction) (block : KVCacheBlock) : F :=
  let share : Rat := block.sharedBySessions.length / (max 1 self.maxShared : Nat)
  (share : F)

def workflowNextUseScore (self : WorkflowAwareEviction) (block : KVCacheBlock) : F :=
  match block.objMeta.expectedNextUseStep with
  | some step => if step < 0 then 0 else 1 / (1 + ((step : Rat) : F))
  | none =>
      match self.stepsToUse block.objMeta.agentId with
      | none => 0
      | some steps => 1 / (1 + ((steps : Rat) : F))

def sizePenalty (self : WorkflowAwareEviction) (block : KVCacheBlock) : F :=
  min 1 (((block.objMeta.sizeBytes : Rat) : F) / (self.settings.sizeNormalizer : F))

def reloadCostPenalty (float : String → Option PyFloat) (self : WorkflowAwareEviction)
    (block : KVCacheBlock) : F :=
  match reloadCost float block with
  | none | some .negInf => 0
  | some (.finite cost) =>
      if cost ≤ 0 then 0 else min 1 ((cost : F) / (self.settings.reloadCostNormalizer : F))
  -- `min(1.0, x)` keeps its first argument unless the second one compares below it
  | some .inf | some .nan => 1

def scoreComponents (float : String → Option PyFloat) (self : WorkflowAwareEviction)
    (block : KVCacheBlock) (now : Rat) : ScoreComponents F :=
  let objId := block.objMeta.objectId
  let recency := self.recencyScore F objId now
  let frequency := self.frequencyScore F objId
  let shared := self.sharedScore F block
  let prefixReuse := clamp01 (block.objMeta.reuseScore : F)
  let workflow := self.workflowNextUseScore F block
  let sizePenalty := self.sizePenalty F block
  let reloadPenalty := self.reloadCostPenalty F float block
  { score :=
      self.settings.wRecency * recency + self.settings.wFrequency * frequency +
        self.settings.wShared * shared + self.settings.wPrefix * prefixReuse +
        self.settings.wWorkflow * workflow - self.settings.wSize * sizePenalty -
        self.settings.wReload * reloadPenalty
    recency
    frequency
    sharedSessions := shared
    prefixReuse
    workflowNextUse := workflow
    sizePenalty
    reloadCostPenalty := reloadPenalty }

def scoreBlock (float : String → Option PyFloat) (self : WorkflowAwareEviction)
    (block : KVCacheBlock) (now : Rat) : F :=
  (self.scoreComponents F float block now).score

/-- `select_victim`; `clock i` is what the clock reads while candidate `i` is scored. -/
def selectVictim (float : String → Option PyFloat) (self : WorkflowAwareEviction)
    (clock : Nat → Rat) (candidates : List KVCacheBlock) : Option (EvictionDecision F) :=
  if candidates.isEmpty then none
  else
    let scored := candidates.zipIdx.map fun (block, i) =>
      (block.objMeta.objectId, self.scoreBlock F float block (clock i))
    (sortBy Prod.snd scored).head?.map fun victim =>
      { objectId := victim.1, priority := -victim.2 }

end

end WorkflowAwareEviction

/-! ## Calls -/

/-- What happens to a policy, and to the graph it holds. -/
inductive WorkflowAwareCall where
  | notified (event : EvictionEvent)
  | setCurrentStep (stepId : Option String)
  | graphCall (call : StepGraphCall)

namespace WorkflowAwareCall

def notification : WorkflowAwareCall → Option EvictionEvent
  | .notified event => some event
  | .setCurrentStep _ | .graphCall _ => none

/-- The notifications among the calls. -/
def events (calls : List WorkflowAwareCall) : List EvictionEvent :=
  calls.filterMap notification

def toGraph : WorkflowAwareCall → Option StepGraphCall
  | .graphCall call => some call
  | .notified _ | .setCurrentStep _ => none

/-- What the calls make of a graph. -/
def graphAfter (calls : List WorkflowAwareCall) (graph : AgentStepGraph) : AgentStepGraph :=
  drive AgentStepGraph.exec graph (calls.filterMap toGraph)

/-- The step the workflow stands at after the calls. -/
def stepAfter (calls : List WorkflowAwareCall) (start : Option String) : Option String :=
  calls.foldl (fun current call =>
    match call with
    | .setCurrentStep stepId => stepId
    | .notified _ | .graphCall _ => current) start

end WorkflowAwareCall

namespace WorkflowAwareEviction

abbrev WorkflowAwareM := EStateM PyError WorkflowAwareEviction

def notify : EvictionEvent → WorkflowAwareM Unit
  | .accessed block now => modify (onBlockAccessed block now)
  | .added block now => modify (onBlockAdded block now)
  | .evicted objectId => modify (onBlockEvicted objectId)

def exec : WorkflowAwareCall → WorkflowAwareM Unit
  | .notified event => notify event
  | .setCurrentStep stepId => modify (setCurrentStep stepId)
  | .graphCall call => modify fun self =>
      { self with
        graph := self.graph.map fun graph =>
          EStateResult.state (AgentStepGraph.exec call graph) }

/-! ## What a history leaves behind -/

/-- A policy as the constructor leaves it. -/
structure Fresh (s : WorkflowAwareEviction) : Prop where
  times : s.accessTimes = .empty
  counts : s.accessCounts = .empty
  shared : s.maxShared = 1

/-- The weights of a policy are those it was constructed with. -/
structure Weighs (recencyWeight frequencyWeight sharedWeight prefixWeight workflowWeight sizeWeight
    reloadWeight : Rat) (s : WorkflowAwareEviction) : Prop where
  recency : s.settings.wRecency = recencyWeight
  frequency : s.settings.wFrequency = frequencyWeight
  shared : s.settings.wShared = sharedWeight
  prefixReuse : s.settings.wPrefix = prefixWeight
  workflow : s.settings.wWorkflow = workflowWeight
  size : s.settings.wSize = sizeWeight
  reload : s.settings.wReload = reloadWeight

section

variable {graph : Option AgentStepGraph} {currentStepId : Option String}
variable {recencyWeight frequencyWeight sharedWeight prefixWeight workflowWeight sizeWeight
  reloadWeight reloadCostNormalizerMs : Rat} {sizeNormalizerBytes : Int}
variable {fresh : WorkflowAwareEviction}

theorem new_spec (built : new graph currentStepId recencyWeight frequencyWeight sharedWeight
      prefixWeight workflowWeight sizeWeight reloadWeight sizeNormalizerBytes
      reloadCostNormalizerMs = .ok fresh) :
    Fresh fresh ∧ Weighs recencyWeight frequencyWeight sharedWeight prefixWeight workflowWeight
      sizeWeight reloadWeight fresh ∧
    fresh.graph = graph ∧ fresh.currentStepId = currentStepId := by
  unfold new at built
  iterate 10 obtain ⟨_, built⟩ := check_passed built
  cases built
  exact ⟨⟨rfl, rfl, rfl⟩, ⟨rfl, rfl, rfl, rfl, rfl, rfl, rfl⟩, rfl, rfl⟩

end

section

variable {s : WorkflowAwareEviction}

/-- No call changes the settings. -/
theorem settings_exec (c : WorkflowAwareCall) (s : WorkflowAwareEviction) :
    (EStateResult.state (exec c s)).settings = s.settings := by
  cases c with
  | notified event => cases event <;> rfl
  | setCurrentStep stepId => rfl
  | graphCall call => rfl

theorem graph_drive (calls : List WorkflowAwareCall) (s : WorkflowAwareEviction) :
    (drive exec s calls).graph = s.graph.map (WorkflowAwareCall.graphAfter calls) := by
  induction calls generalizing s with
  | nil => exact Option.map_id'.symm
  | cons c calls ih =>
      refine (ih (EStateResult.state (exec c s))).trans ?_
      cases c with
      | notified event => cases event <;> rfl
      | setCurrentStep stepId => rfl
      | graphCall call => exact Option.map_map _ _ s.graph

theorem currentStepId_drive (calls : List WorkflowAwareCall) (s : WorkflowAwareEviction) :
    (drive exec s calls).currentStepId = WorkflowAwareCall.stepAfter calls s.currentStepId := by
  induction calls generalizing s with
  | nil => rfl
  | cons c calls ih =>
      refine (ih (EStateResult.state (exec c s))).trans ?_
      cases c with
      | notified event => cases event <;> rfl
      | setCurrentStep stepId => rfl
      | graphCall call => rfl

theorem settings_drive (calls : List WorkflowAwareCall) (s : WorkflowAwareEviction) :
    (drive exec s calls).settings = s.settings :=
  drive_invariant (I := fun reached => reached.settings = s.settings)
    (fun reached c _ kept => (settings_exec c reached).trans kept) rfl

theorem accessTimes_exec (s : WorkflowAwareEviction) (c : WorkflowAwareCall) :
    (EStateResult.state (exec c s)).accessTimes.get? =
      c.notification.elim s.accessTimes.get? (touch s.accessTimes.get?) := by
  cases c with
  | setCurrentStep stepId => rfl
  | graphCall call => rfl
  | notified event =>
      cases event with
      | accessed block now | added block now => exact Dict.lookup_set _ _ _
      | evicted objectId => exact Dict.lookup_erase _ _

/-- Every touch is recorded under its reading. -/
theorem accessTimes_get? (fresh : Fresh s) (calls : List WorkflowAwareCall) :
    (drive exec s calls).accessTimes.get? = lastTouch (WorkflowAwareCall.events calls) :=
  touches_recorded WorkflowAwareCall.notification accessTimes accessTimes_exec fresh.times calls

theorem maxShared_le_exec (c : WorkflowAwareCall) (s : WorkflowAwareEviction) :
    s.maxShared ≤ (EStateResult.state (exec c s)).maxShared := by
  cases c with
  | setCurrentStep stepId => exact le_rfl
  | graphCall call => exact le_rfl
  | notified event =>
      cases event with
      | accessed block now | added block now => exact le_max_left _ _
      | evicted objectId => exact le_rfl

/-- Sharing is measured by every block that was registered, in either way. -/
theorem le_maxShared (s : WorkflowAwareEviction) {calls : List WorkflowAwareCall}
    {block : KVCacheBlock} (registered : Registered (WorkflowAwareCall.events calls) block) :
    block.sharedBySessions.length ≤ (drive exec s calls).maxShared := by
  obtain ⟨event, told, known, registers, -, same⟩ := registered
  obtain ⟨c, called, notifies⟩ := List.mem_filterMap.mp told
  obtain ⟨pre, post, rfl⟩ := List.append_of_mem called
  rw [drive_append, ← same]
  change _ ≤ (drive exec (EStateResult.state (exec c (drive exec s pre))) post).maxShared
  refine drive_invariant (I := fun reached => known.sharedBySessions.length ≤ reached.maxShared)
    (fun reached c _ kept => kept.trans (maxShared_le_exec c reached)) ?_
  cases c with
  | setCurrentStep stepId => cases notifies
  | graphCall call => cases notifies
  | notified event =>
      cases notifies
      cases event with
      | accessed block now | added block now =>
          cases registers
          exact le_max_right _ _
      | evicted objectId => cases registers

end

end WorkflowAwareEviction

end IntelliL3
