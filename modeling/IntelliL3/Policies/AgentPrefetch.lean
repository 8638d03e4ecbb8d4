import Mathlib.Algebra.Order.Field.Rat
import Mathlib.Data.Finset.Card
import IntelliL3.Metadata.AgentStepGraph
import IntelliL3.Policies.PrefetchPolicy

/-! # Agent prefetch policy

`policies/prefetch/agent_prefetch.py`: the objects of the predicted next steps are
prefetched, those of nearer steps first, and it is counted how useful that was. The graph
may be changed by others between calls.
-/

namespace IntelliL3

open Lib

inductive AgentPrefetchType where
  | kvCache | rag | semantic | toolArtifact | planCache
  deriving DecidableEq

namespace AgentPrefetchType

def text : AgentPrefetchType → String
  | .kvCache => "kv_cache"
  | .rag => "rag"
  | .semantic => "semantic"
  | .toolArtifact => "tool_artifact"
  | .planCache => "plan_cache"

/-- `_TYPE_WEIGHTS` -/
def weight : AgentPrefetchType → Rat
  | .kvCache => 1
  | .toolArtifact => 9 / 10
  | .rag => 17 / 20
  | .planCache => 4 / 5
  | .semantic => 3 / 4

end AgentPrefetchType

structure AgentStepObjects where
  kvBlockIds : List String := []
  ragObjectIds : List String := []
  semanticEntryIds : List String := []
  toolArtifactIds : List String := []
  planCacheEntryIds : List String := []

structure AgentPrefetchPolicy where
  graph : AgentStepGraph
  currentStepId : Option String
  nextStepTopK : Nat
  maxDecisions : Nat
  stepObjects : Dict String AgentStepObjects := .empty
  predictedObjectIds : Finset String := ∅
  usedPrefetchIds : Finset String := ∅
  wastedPrefetchIds : Finset String := ∅
  requests : Nat := 0
  agentPrefetchCount : Nat := 0
  expectedObjectCount : Nat := 0
  recallHitCount : Nat := 0
  wastedPrefetchBytes : Int := 0
  latencySavedMs : Rat := 0
  topKPositive : 0 < nextStepTopK
  maxDecisionsPositive : 0 < maxDecisions

structure AgentPrefetchStats where
  requests : Nat
  agentPrefetchCount : Nat
  agentPrefetchUseRate : Rat
  prefetchPrecision : Rat
  prefetchRecall : Rat
  wastedPrefetchBytes : Int
  latencySavedMs : Rat
  indexedSteps : Nat

namespace AgentPrefetchPolicy

def new (graph : AgentStepGraph) (currentStepId : Option String := none)
    (nextStepTopK : Int := 3) (maxDecisions : Int := 10) : Except PyError AgentPrefetchPolicy :=
  if wrongTopK : nextStepTopK ≤ 0 then
    .error (.valueError "next_step_top_k must be positive")
  else if wrongMax : maxDecisions ≤ 0 then
    .error (.valueError "max_decisions must be positive")
  else .ok {
    graph
    currentStepId
    nextStepTopK := nextStepTopK.toNat
    maxDecisions := maxDecisions.toNat
    topKPositive := toNat_pos_of_allowed wrongTopK
    maxDecisionsPositive := toNat_pos_of_allowed wrongMax }

/-! ## Objects of a step -/

/-- `list(dict.fromkeys(value for value in values if value))` -/
def dedupe (values : List String) : List String := (values.filter (· ≠ "")).eraseDups

def dedupeStepObjects (objects : AgentStepObjects) : AgentStepObjects where
  kvBlockIds := dedupe objects.kvBlockIds
  ragObjectIds := dedupe objects.ragObjectIds
  semanticEntryIds := dedupe objects.semanticEntryIds
  toolArtifactIds := dedupe objects.toolArtifactIds
  planCacheEntryIds := dedupe objects.planCacheEntryIds

def iterObjects (objects : AgentStepObjects) : List (AgentPrefetchType × List String) :=
  [(.kvCache, objects.kvBlockIds),
    (.toolArtifact, objects.toolArtifactIds),
    (.rag, objects.ragObjectIds),
    (.planCache, objects.planCacheEntryIds),
    (.semantic, objects.semanticEntryIds)]

abbrev AgentPrefetchM := EStateM PyError AgentPrefetchPolicy

def setCurrentStep (stepId : Option String) : AgentPrefetchM Unit :=
  modify fun self => { self with currentStepId := stepId }

/-- `self._step_objects[step_id] = self._dedupe_step_objects(objects)` -/
def withObjects (stepId : String) (objects : AgentStepObjects) (self : AgentPrefetchPolicy) :
    AgentPrefetchPolicy :=
  { self with stepObjects := self.stepObjects.set stepId (dedupeStepObjects objects) }

def registerStepObjects (stepId : String) (objects : AgentStepObjects) : AgentPrefetchM Unit :=
  if stepId = "" then throw (.valueError "step_id must be non-empty")
  else modify (withObjects stepId objects)

/-- The objects of a step, as `register_step` reads them. -/
def objectsOf (step : AgentStep) (toolArtifactIds planCacheEntryIds : Option (List String)) :
    AgentStepObjects where
  kvBlockIds := step.kvBlockIds
  ragObjectIds := step.ragObjectIds
  semanticEntryIds := step.semanticEntryIds
  toolArtifactIds := toolArtifactIds.getD []
  planCacheEntryIds := planCacheEntryIds.getD []

def registerStep (step : AgentStep)
    (toolArtifactIds planCacheEntryIds : Option (List String) := none) : AgentPrefetchM Unit :=
  registerStepObjects step.stepId (objectsOf step toolArtifactIds planCacheEntryIds)

/-! ## Decisions -/

/-- `(prefetch_type, object_id)` -/
def decisionKey (decision : PrefetchDecision) : String × String :=
  (decision.prefetchType, decision.objectId)

/-- The decisions for the objects of a step at this rank, kept where they are the best. -/
def decideStep (self : AgentPrefetchPolicy)
    (decisionsByKey : Dict (String × String) PrefetchDecision) (stepId : String)
    (stepRank : Nat) : Dict (String × String) PrefetchDecision :=
  match self.stepObjects.get? stepId with
  | none => decisionsByKey
  | some objects =>
      let stepPriority : Rat := 1 / (1 + stepRank)
      (iterObjects objects).foldl (fun decisionsByKey item =>
        let priority := stepPriority * item.1.weight
        item.2.foldl (fun decisionsByKey objectId =>
          keepBest decisionKey PrefetchDecision.priority decisionsByKey
            { objectId, priority, prefetchType := item.1.text }) decisionsByKey) decisionsByKey

def decisionsForSteps (self : AgentPrefetchPolicy) (stepIds : List String) :
    List PrefetchDecision :=
  let decisionsByKey := stepIds.zipIdx.foldl (fun decisionsByKey step =>
    self.decideStep decisionsByKey step.1 step.2) .empty
  firstDecisions decisionsByKey self.maxDecisions

/-- `self._requests += 1` -/
def countRequest (self : AgentPrefetchPolicy) : AgentPrefetchPolicy :=
  { self with requests := self.requests + 1 }

/-- The counters once decisions are made. -/
def decided (decisions : List PrefetchDecision) (self : AgentPrefetchPolicy) :
    AgentPrefetchPolicy :=
  { self with
    agentPrefetchCount := self.agentPrefetchCount + decisions.length
    predictedObjectIds :=
      self.predictedObjectIds ∪ (decisions.map PrefetchDecision.objectId).toFinset }

/-- The request is only logged, and the metadata is not read. -/
def predictPrefetch : AgentPrefetchM (List PrefetchDecision) := do
  modify countRequest
  let self ← get
  match self.currentStepId with
  | none => return []
  | some currentStepId =>
      match self.graph.getStep currentStepId with
      | none => return []
      | some current =>
          let nextSteps ← raising <|
            self.graph.predictNextSteps current.workflowId currentStepId self.nextStepTopK
          let decisions := self.decisionsForSteps nextSteps
          modify (decided decisions)
          return decisions

/-! ## Feedback -/

/-- The first use of a predicted object is counted. -/
def countUsed (objectId : String) (savedMs : Rat) (self : AgentPrefetchPolicy) :
    AgentPrefetchPolicy :=
  if objectId ∈ self.predictedObjectIds ∧ objectId ∉ self.usedPrefetchIds then { self with
    usedPrefetchIds := insert objectId self.usedPrefetchIds
    latencySavedMs := self.latencySavedMs + savedMs }
  else self

def onPrefetchUsed (objectId : String) (latencySavedMs : Rat := 0) : AgentPrefetchM Unit :=
  if latencySavedMs < 0 then throw (.valueError "latency_saved_ms must be non-negative")
  else modify (countUsed objectId latencySavedMs)

/-- The first waste of a predicted object is counted. -/
def countWasted (objectId : String) (sizeBytes : Int) (self : AgentPrefetchPolicy) :
    AgentPrefetchPolicy :=
  if objectId ∈ self.predictedObjectIds ∧ objectId ∉ self.wastedPrefetchIds then { self with
    wastedPrefetchIds := insert objectId self.wastedPrefetchIds
    wastedPrefetchBytes := self.wastedPrefetchBytes + sizeBytes }
  else self

def onPrefetchWasted (objectId : String) (sizeBytes : Int := 0) : AgentPrefetchM Unit :=
  if sizeBytes < 0 then throw (.valueError "size_bytes must be non-negative")
  else modify (countWasted objectId sizeBytes)

/-- The objects that are requested, and those of them that were predicted. -/
def countRequested (objectIds : List String) (self : AgentPrefetchPolicy) :
    AgentPrefetchPolicy :=
  let requested := (objectIds.filter (· ≠ "")).toFinset
  { self with
    expectedObjectCount := self.expectedObjectCount + requested.card
    recallHitCount := self.recallHitCount + (requested ∩ self.predictedObjectIds).card }

def onObjectsRequested (objectIds : List String) : AgentPrefetchM Unit :=
  modify (countRequested objectIds)

def stats (self : AgentPrefetchPolicy) : AgentPrefetchStats :=
  let precision : Rat :=
    if self.agentPrefetchCount ≠ 0 then self.usedPrefetchIds.card / self.agentPrefetchCount else 0
  let recallRate : Rat :=
    if self.expectedObjectCount ≠ 0 then self.recallHitCount / self.expectedObjectCount else 0
  { requests := self.requests
    agentPrefetchCount := self.agentPrefetchCount
    agentPrefetchUseRate := precision
    prefetchPrecision := precision
    prefetchRecall := recallRate
    wastedPrefetchBytes := self.wastedPrefetchBytes
    latencySavedMs := self.latencySavedMs
    indexedSteps := self.stepObjects.size }

end AgentPrefetchPolicy

/-! ## Calls -/

/-- A call of the policy, or of the graph it reads. -/
inductive AgentPrefetchCall where
  | registerStep (step : AgentStep) (toolArtifactIds planCacheEntryIds : Option (List String))
  | registerStepObjects (stepId : String) (objects : AgentStepObjects)
  | setCurrentStep (stepId : Option String)
  | predictPrefetch
  | prefetchUsed (objectId : String) (latencySavedMs : Rat)
  | prefetchWasted (objectId : String) (sizeBytes : Int)
  | objectsRequested (objectIds : List String)
  | graphCall (call : StepGraphCall)

namespace AgentPrefetchPolicy

def onGraph (action : AgentStepGraph.GraphM Unit) : AgentPrefetchM Unit :=
  zoom graph (fun self graph => { self with graph }) action

/-- Calls that predict nothing answer no decisions. -/
def exec : AgentPrefetchCall → AgentPrefetchM (List PrefetchDecision)
  | .registerStep step toolArtifactIds planCacheEntryIds => do
      registerStep step toolArtifactIds planCacheEntryIds
      return []
  | .registerStepObjects stepId objects => do
      registerStepObjects stepId objects
      return []
  | .setCurrentStep stepId => do
      setCurrentStep stepId
      return []
  | .predictPrefetch => predictPrefetch
  | .prefetchUsed objectId latencySavedMs => do
      onPrefetchUsed objectId latencySavedMs
      return []
  | .prefetchWasted objectId sizeBytes => do
      onPrefetchWasted objectId sizeBytes
      return []
  | .objectsRequested objectIds => do
      onObjectsRequested objectIds
      return []
  | .graphCall call => do
      onGraph (AgentStepGraph.exec call)
      return []

end AgentPrefetchPolicy

end IntelliL3
