import Mathlib.Data.Finset.Card
import IntelliL3.Policies.ToolLatencyEstimator

/-! # Agent TTL policy

`policies/retention/agent_ttl.py`: whether the KV blocks of an agent step stay
pinned during its tool call or are offloaded and prefetched again. The latency
estimator may be shared, so latencies are recorded through the policy and
besides.
-/

namespace IntelliL3

open Lib

inductive RetentionAction where
  | pin | offload | prefetchLater | retain
  deriving DecidableEq

structure AgentRetentionDecision where
  stepId : String
  kvBlockIds : List String
  action : RetentionAction
  ttlMs : Option Rat
  reason : String
  toolCallId : Option String := none
  predictedToolLatencyMs : Option Rat := none
  reloadCostMs : Option Rat := none
  prefetchDelayMs : Option Rat := none
  deriving DecidableEq

structure ToolProfile where
  toolName : String
  toolArgsClass : Option String

structure AgentTTLPolicy where
  latencyEstimator : ToolLatencyEstimator
  ttlThresholdMs : Rat
  defaultTtlMs : Rat
  reloadCostMs : Rat
  prefetchMarginMs : Rat
  decisionsByStep : Dict String AgentRetentionDecision := .empty
  decisionsByToolCall : Dict String AgentRetentionDecision := .empty
  toolProfiles : Dict String ToolProfile := .empty
  prefetchTriggered : Finset String := ∅
  pinnedBlocks : Finset String := ∅
  offloadedBlocks : Finset String := ∅
  kvRetained : Nat := 0
  kvEvicted : Nat := 0
  kvReloaded : Nat := 0
  recomputeAvoided : Nat := 0
  toolWaitHiddenMs : Rat := 0
  prefetchScheduled : Nat := 0
  prefetchTriggerCount : Nat := 0
  thresholdNonneg : 0 ≤ ttlThresholdMs
  defaultTtlNonneg : 0 ≤ defaultTtlMs
  reloadNonneg : 0 ≤ reloadCostMs
  marginNonneg : 0 ≤ prefetchMarginMs

structure RetentionStats where
  decisions : Nat
  kvRetained : Nat
  kvEvicted : Nat
  kvReloaded : Nat
  recomputeAvoided : Nat
  toolWaitHiddenMs : Rat
  prefetchScheduled : Nat
  prefetchTriggered : Nat
  pinnedBlocks : Nat
  offloadedBlocks : Nat

/-- `value or other`, for texts. -/
def orText (value other : Option String) : Option String :=
  match value with
  | some text => if text = "" then other else some text
  | none => other

namespace AgentTTLPolicy

def new (latencyEstimator : ToolLatencyEstimator) (ttlThresholdMs : Rat := 750)
    (defaultTtlMs : Rat := 1000) (reloadCostMs : Rat := 150) (prefetchMarginMs : Rat := 100) :
    Except PyError AgentTTLPolicy :=
  if wrongThreshold : ttlThresholdMs < 0 then
    .error (.valueError "ttl_threshold_ms must be non-negative")
  else if wrongTtl : defaultTtlMs < 0 then
    .error (.valueError "default_ttl_ms must be non-negative")
  else if wrongReload : reloadCostMs < 0 then
    .error (.valueError "reload_cost_ms must be non-negative")
  else if wrongMargin : prefetchMarginMs < 0 then
    .error (.valueError "prefetch_margin_ms must be non-negative")
  else .ok {
    latencyEstimator
    ttlThresholdMs
    defaultTtlMs
    reloadCostMs
    prefetchMarginMs
    thresholdNonneg := Rat.not_lt.mp wrongThreshold
    defaultTtlNonneg := Rat.not_lt.mp wrongTtl
    reloadNonneg := Rat.not_lt.mp wrongReload
    marginNonneg := Rat.not_lt.mp wrongMargin }

def resolveToolName (step : AgentStep) (toolName : Option String) : String :=
  match orText toolName step.objMeta.toolName with
  | none => "unknown"
  | some resolved => if strip resolved = "" then "unknown" else strip resolved

def storeDecision (decision : AgentRetentionDecision) (self : AgentTTLPolicy) : AgentTTLPolicy :=
  let self := { self with
    decisionsByStep := self.decisionsByStep.set decision.stepId decision }
  match decision.toolCallId with
  | none => self
  | some toolCallId => { self with
      decisionsByToolCall := self.decisionsByToolCall.set toolCallId decision }

/-- What is decided for a step that calls no tool. -/
def retainDecision (stepId : String) (blockIds : List String) (reloadCost : Rat) :
    AgentRetentionDecision where
  stepId := stepId
  kvBlockIds := blockIds
  action := .retain
  ttlMs := none
  reason := "no_tool_call"
  reloadCostMs := some reloadCost

/-- What is decided for a tool call that will be short. -/
def pinDecision (self : AgentTTLPolicy) (stepId : String) (blockIds : List String)
    (toolCallId : String) (predictedLatency reloadCost : Rat) : AgentRetentionDecision where
  stepId := stepId
  kvBlockIds := blockIds
  action := .pin
  ttlMs := some (max self.defaultTtlMs (predictedLatency + reloadCost))
  reason := "short_tool_call"
  toolCallId := some toolCallId
  predictedToolLatencyMs := some predictedLatency
  reloadCostMs := some reloadCost

/-- What is decided for a tool call that will be long. -/
def offloadDecision (self : AgentTTLPolicy) (stepId : String) (blockIds : List String)
    (toolCallId : String) (predictedLatency reloadCost : Rat) : AgentRetentionDecision where
  stepId := stepId
  kvBlockIds := blockIds
  action := .offload
  ttlMs := none
  reason := "long_tool_call"
  toolCallId := some toolCallId
  predictedToolLatencyMs := some predictedLatency
  reloadCostMs := some reloadCost
  prefetchDelayMs := some (max 0 (predictedLatency - self.prefetchMarginMs))

/-- The counters and blocks once blocks are pinned. -/
def pinned (blockIds : List String) (predictedLatency reloadCost : Rat) (self : AgentTTLPolicy) :
    AgentTTLPolicy :=
  { self with
    kvRetained := self.kvRetained + blockIds.length
    recomputeAvoided := self.recomputeAvoided + blockIds.length
    toolWaitHiddenMs := self.toolWaitHiddenMs + min predictedLatency reloadCost * blockIds.length
    pinnedBlocks := self.pinnedBlocks ∪ blockIds.toFinset }

/-- The counters and blocks once blocks are offloaded. -/
def offloaded (blockIds : List String) (self : AgentTTLPolicy) : AgentTTLPolicy :=
  { self with
    kvEvicted := self.kvEvicted + blockIds.length
    prefetchScheduled := self.prefetchScheduled + blockIds.length
    offloadedBlocks := self.offloadedBlocks ∪ blockIds.toFinset }

def onLlmStepCompleted (step : AgentStep) (kvBlockIds : Option (List String) := none)
    (toolCallId toolName toolArgsClass : Option String := none)
    (reloadCostMs : Option Rat := none) :
    EStateM PyError AgentTTLPolicy AgentRetentionDecision := do
  let self ← get
  let blockIds := kvBlockIds.getD step.kvBlockIds
  let resolvedReloadCost := reloadCostMs.getD self.reloadCostMs
  if resolvedReloadCost < 0 then throw (.valueError "reload_cost_ms must be non-negative")
  else match orText toolCallId step.toolCallId with
  | none =>
      let decision := retainDecision step.stepId blockIds resolvedReloadCost
      modify (storeDecision decision)
      return decision
  | some resolvedToolCallId =>
      let resolvedToolName := resolveToolName step toolName
      let predictedLatency ←
        raising (self.latencyEstimator.predictLatency resolvedToolName toolArgsClass)
      modify fun self => { self with
        toolProfiles := self.toolProfiles.set resolvedToolCallId
          ⟨resolvedToolName, toolArgsClass⟩ }
      if predictedLatency ≤ self.ttlThresholdMs then
        let decision := self.pinDecision step.stepId blockIds resolvedToolCallId predictedLatency
          resolvedReloadCost
        modify fun self =>
          storeDecision decision (self.pinned blockIds predictedLatency resolvedReloadCost)
        return decision
      else
        let decision := self.offloadDecision step.stepId blockIds resolvedToolCallId
          predictedLatency resolvedReloadCost
        modify fun self => storeDecision decision (self.offloaded blockIds)
        return decision

def decideRetention (self : AgentTTLPolicy) (stepId : String) : Option AgentRetentionDecision :=
  self.decisionsByStep.get? stepId

def pendingPrefetches (self : AgentTTLPolicy) : List AgentRetentionDecision :=
  (self.decisionsByToolCall.entries.map Prod.snd).filter fun decision =>
    decision.action = .offload && decision.prefetchDelayMs.isSome

/-- The prefetch of the blocks of a decision. -/
def prefetchOf (decision : AgentRetentionDecision) (toolCallId : String) :
    AgentRetentionDecision where
  stepId := decision.stepId
  kvBlockIds := decision.kvBlockIds
  action := .prefetchLater
  ttlMs := none
  reason := "prefetch_window_reached"
  toolCallId := some toolCallId
  predictedToolLatencyMs := decision.predictedToolLatencyMs
  reloadCostMs := decision.reloadCostMs
  prefetchDelayMs := decision.prefetchDelayMs

/-- `decision.prefetch_delay_ms is None or elapsed_ms < decision.prefetch_delay_ms` -/
def tooEarly (decision : AgentRetentionDecision) (elapsedMs : Rat) : Bool :=
  decision.prefetchDelayMs.all fun delay => elapsedMs < delay

def prefetchDue (toolCallId : String) (elapsedMs : Rat) :
    EStateM PyError AgentTTLPolicy (Option AgentRetentionDecision) := do
  if elapsedMs < 0 then throw (.valueError "elapsed_ms must be non-negative")
  else
    let self ← get
    if toolCallId ∈ self.prefetchTriggered then return none
    else match self.decisionsByToolCall.get? toolCallId with
    | none => return none
    | some decision =>
        if decision.action ≠ .offload then return none
        else if tooEarly decision elapsedMs then return none
        else
          set { self with
            prefetchTriggered := insert toolCallId self.prefetchTriggered
            prefetchTriggerCount := self.prefetchTriggerCount + decision.kvBlockIds.length }
          return some (prefetchOf decision toolCallId)

/-- A call on the estimator the policy holds. -/
def onEstimator {α : Type} (action : EStateM PyError ToolLatencyEstimator α) :
    EStateM PyError AgentTTLPolicy α :=
  zoom latencyEstimator (fun self latencyEstimator => { self with latencyEstimator }) action

def onToolCompleted (toolCallId : String) (actualLatencyMs : Rat)
    (toolName toolArgsClass : Option String := none) : EStateM PyError AgentTTLPolicy Unit := do
  if actualLatencyMs < 0 then throw (.valueError "actual_latency_ms must be non-negative")
  else
    let profile := (← get).toolProfiles.get? toolCallId
    match orText toolName (profile.map ToolProfile.toolName) with
    | none => throw (.valueError "tool_name is required for unknown tool_call_id")
    | some resolvedToolName =>
        let resolvedArgsClass := toolArgsClass.or (profile.bind ToolProfile.toolArgsClass)
        onEstimator (ToolLatencyEstimator.recordLatency resolvedToolName actualLatencyMs
          resolvedArgsClass)

def onKvReloaded (kvBlockIds : List String) (self : AgentTTLPolicy) : AgentTTLPolicy :=
  let blockIds := kvBlockIds.toFinset
  { self with
    kvReloaded := self.kvReloaded + blockIds.card
    offloadedBlocks := self.offloadedBlocks \ blockIds }

def onPinnedKvReleased (kvBlockIds : List String) (self : AgentTTLPolicy) : AgentTTLPolicy :=
  { self with pinnedBlocks := self.pinnedBlocks \ kvBlockIds.toFinset }

def stats (self : AgentTTLPolicy) : RetentionStats where
  decisions := self.decisionsByStep.size
  kvRetained := self.kvRetained
  kvEvicted := self.kvEvicted
  kvReloaded := self.kvReloaded
  recomputeAvoided := self.recomputeAvoided
  toolWaitHiddenMs := self.toolWaitHiddenMs
  prefetchScheduled := self.prefetchScheduled
  prefetchTriggered := self.prefetchTriggerCount
  pinnedBlocks := self.pinnedBlocks.card
  offloadedBlocks := self.offloadedBlocks.card

end AgentTTLPolicy

/-! ## Calls -/

/-- A call of the policy, or of the estimator it shares. -/
inductive RetentionCall where
  | llmStepCompleted (step : AgentStep) (kvBlockIds : Option (List String))
      (toolCallId toolName toolArgsClass : Option String) (reloadCostMs : Option Rat)
  | prefetchDue (toolCallId : String) (elapsedMs : Rat)
  | toolCompleted (toolCallId : String) (actualLatencyMs : Rat)
      (toolName toolArgsClass : Option String)
  | kvReloaded (kvBlockIds : List String)
  | pinnedKvReleased (kvBlockIds : List String)
  | recordLatency (toolName : String) (latencyMs : Rat) (toolArgsClass : Option String)
  | recordInterval (toolName : String) (startedAt endedAt : Rat) (toolArgsClass : Option String)
  | resetLatencies

namespace AgentTTLPolicy

/-- Calls that decide nothing answer none. -/
def exec : RetentionCall → EStateM PyError AgentTTLPolicy (Option AgentRetentionDecision)
  | .llmStepCompleted step kvBlockIds toolCallId toolName toolArgsClass reloadCostMs => do
      return some
        (← onLlmStepCompleted step kvBlockIds toolCallId toolName toolArgsClass reloadCostMs)
  | .prefetchDue toolCallId elapsedMs => prefetchDue toolCallId elapsedMs
  | .toolCompleted toolCallId actualLatencyMs toolName toolArgsClass => do
      onToolCompleted toolCallId actualLatencyMs toolName toolArgsClass
      return none
  | .kvReloaded kvBlockIds => do
      modify (onKvReloaded kvBlockIds)
      return none
  | .pinnedKvReleased kvBlockIds => do
      modify (onPinnedKvReleased kvBlockIds)
      return none
  | .recordLatency toolName latencyMs toolArgsClass => do
      onEstimator (ToolLatencyEstimator.recordLatency toolName latencyMs toolArgsClass)
      return none
  | .recordInterval toolName startedAt endedAt toolArgsClass => do
      onEstimator
        (ToolLatencyEstimator.recordInterval toolName startedAt endedAt toolArgsClass)
      return none
  | .resetLatencies => do
      onEstimator (modify ToolLatencyEstimator.reset)
      return none

end AgentTTLPolicy

end IntelliL3
