import IntelliL3.Metadata.StepOrder
import IntelliL3.Policies.AgentPrefetch

/-! # What a call of the prefetch policy does

Every call is one of a few steps, guards included. What holds along runs is proved from
these steps.
-/

namespace IntelliL3

open Lib

/-- The step a call gives objects for, and these objects. -/
def AgentPrefetchCall.given : AgentPrefetchCall → Option (String × AgentStepObjects)
  | .registerStep step toolArtifactIds planCacheEntryIds =>
      some (step.stepId, AgentPrefetchPolicy.objectsOf step toolArtifactIds planCacheEntryIds)
  | .registerStepObjects stepId objects => some (stepId, objects)
  | .setCurrentStep _ | .predictPrefetch | .prefetchUsed .. | .prefetchWasted ..
  | .objectsRequested _ | .graphCall _ => none

namespace AgentPrefetchPolicy

/-- A policy that has been told nothing yet. -/
structure Fresh (graph : AgentStepGraph) (maxDecisions : Int) (s : AgentPrefetchPolicy) :
    Prop where
  graph : s.graph = graph
  maxDecisions : s.maxDecisions = maxDecisions.toNat
  objects : s.stepObjects = .empty
  predicted : s.predictedObjectIds = ∅
  used : s.usedPrefetchIds = ∅
  wasted : s.wastedPrefetchIds = ∅
  prefetched : s.agentPrefetchCount = 0
  expected : s.expectedObjectCount = 0
  hits : s.recallHitCount = 0
  bytes : s.wastedPrefetchBytes = 0
  saved : s.latencySavedMs = 0

theorem Fresh.new {graph : AgentStepGraph} {currentStepId : Option String}
    {nextStepTopK maxDecisions : Int} {s : AgentPrefetchPolicy}
    (built : AgentPrefetchPolicy.new graph currentStepId nextStepTopK maxDecisions = .ok s) :
    Fresh graph maxDecisions s := by
  unfold AgentPrefetchPolicy.new at built
  iterate 2 obtain ⟨_, built⟩ := check_passed built
  cases built
  exact ⟨rfl, rfl, rfl, rfl, rfl, rfl, rfl, rfl, rfl, rfl, rfl⟩

theorem new_returns (graph : AgentStepGraph) (currentStepId : Option String)
    {nextStepTopK maxDecisions : Int} (topKPositive : 0 < nextStepTopK)
    (maxPositive : 0 < maxDecisions) :
    ∃ s, new graph currentStepId nextStepTopK maxDecisions = .ok s := by
  unfold new
  rw [dif_neg (not_le.mpr topKPositive), dif_neg (not_le.mpr maxPositive)]
  exact ⟨_, rfl⟩

/-! ## Steps -/

/-- What a call can do, and what it answers. -/
inductive Step (s : AgentPrefetchPolicy) : AgentPrefetchCall →
    EStateM.Result PyError AgentPrefetchPolicy (List PrefetchDecision) → Prop
  | unnamed {c objects} : c.given = some ("", objects) →
      Step s c (.error (.valueError "step_id must be non-empty") s)
  | registered {c stepId objects} : c.given = some (stepId, objects) → stepId ≠ "" →
      Step s c (.ok [] (s.withObjects stepId objects))
  | moved {stepId} : Step s (.setCurrentStep stepId) (.ok [] { s with currentStepId := stepId })
  | unpredicted (e : PyError) : Step s .predictPrefetch (.error e s.countRequest)
  | predicted (decisions : List PrefetchDecision) :
      Step s .predictPrefetch (.ok decisions (s.countRequest.decided decisions))
  | negativeSaving {objectId savedMs} : savedMs < 0 → Step s (.prefetchUsed objectId savedMs)
      (.error (.valueError "latency_saved_ms must be non-negative") s)
  | used {objectId savedMs} : 0 ≤ savedMs →
      Step s (.prefetchUsed objectId savedMs) (.ok [] (s.countUsed objectId savedMs))
  | negativeSize {objectId sizeBytes} : sizeBytes < 0 →
      Step s (.prefetchWasted objectId sizeBytes)
        (.error (.valueError "size_bytes must be non-negative") s)
  | wasted {objectId sizeBytes} : 0 ≤ sizeBytes →
      Step s (.prefetchWasted objectId sizeBytes) (.ok [] (s.countWasted objectId sizeBytes))
  | requested {objectIds} :
      Step s (.objectsRequested objectIds) (.ok [] (s.countRequested objectIds))
  | graphChanged {call graph} : AgentStepGraph.exec call s.graph = .ok () graph →
      Step s (.graphCall call) (.ok [] { s with graph })
  | graphRaised {call graph e} : AgentStepGraph.exec call s.graph = .error e graph →
      Step s (.graphCall call) (.error e { s with graph })

theorem decided_nil (s : AgentPrefetchPolicy) : s.decided [] = s := by
  unfold decided
  rw [List.map_nil, List.toFinset_nil, Finset.union_empty]
  rfl

theorem predictPrefetch_step (s : AgentPrefetchPolicy) :
    Step s .predictPrefetch (predictPrefetch s) := by
  have nothing : Step s .predictPrefetch (.ok [] s.countRequest) := by
    have step := @Step.predicted s []
    rwa [decided_nil] at step
  unfold predictPrefetch
  rw [bind_run, modify_run]
  simp only
  rw [bind_run, get_run]
  simp only
  cases s.countRequest.currentStepId with
  | none => exact nothing
  | some currentStepId =>
      simp only
      cases s.countRequest.graph.getStep currentStepId with
      | none => exact nothing
      | some current =>
          simp only
          cases s.countRequest.graph.predictNextSteps current.workflowId currentStepId
            s.countRequest.nextStepTopK with
          | error e => exact .unpredicted e
          | ok nextSteps => exact .predicted _

theorem registerStepObjects_step {c : AgentPrefetchCall} {stepId : String}
    {objects : AgentStepObjects} (given : c.given = some (stepId, objects))
    (s : AgentPrefetchPolicy) :
    Step s c ((registerStepObjects stepId objects >>= fun _ => pure []) s) := by
  rw [bind_run, registerStepObjects]
  by_cases empty : stepId = ""
  · rw [if_pos empty]
    exact .unnamed (empty ▸ given)
  · rw [if_neg empty]
    exact .registered given empty

theorem exec_step (c : AgentPrefetchCall) (s : AgentPrefetchPolicy) : Step s c (exec c s) := by
  cases c with
  | registerStep step toolArtifactIds planCacheEntryIds => exact registerStepObjects_step rfl s
  | registerStepObjects stepId objects => exact registerStepObjects_step rfl s
  | setCurrentStep stepId => exact .moved
  | predictPrefetch => exact s.predictPrefetch_step
  | prefetchUsed objectId savedMs =>
      change Step s _ ((onPrefetchUsed objectId savedMs >>= fun _ => pure []) s)
      rw [bind_run, onPrefetchUsed]
      by_cases negative : savedMs < 0
      · rw [if_pos negative]
        exact .negativeSaving negative
      · rw [if_neg negative]
        exact .used (not_lt.mp negative)
  | prefetchWasted objectId sizeBytes =>
      change Step s _ ((onPrefetchWasted objectId sizeBytes >>= fun _ => pure []) s)
      rw [bind_run, onPrefetchWasted]
      by_cases negative : sizeBytes < 0
      · rw [if_pos negative]
        exact .negativeSize negative
      · rw [if_neg negative]
        exact .wasted (not_lt.mp negative)
  | objectsRequested objectIds => exact .requested
  | graphCall call =>
      change Step s _ ((onGraph (AgentStepGraph.exec call) >>= fun _ => pure []) s)
      rw [bind_run, onGraph, zoom_run]
      cases ran : AgentStepGraph.exec call s.graph with
      | ok _ graph => exact .graphChanged ran
      | error e graph => exact .graphRaised ran

end AgentPrefetchPolicy

end IntelliL3
